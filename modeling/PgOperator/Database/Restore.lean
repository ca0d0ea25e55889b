import PgOperator.Database.Storage

/-!
Continuous archiving, and what a fresh instance is filled from.
-/

namespace PgOperator

open Kube

structure Archiver where
  storage : Option StorageBackend := none
  deriving DecidableEq

abbrev Archiver.fields : Fields :=
  opt "storage" (Record.shape StorageBackend) .nil

instance : Record Archiver where
  heading := .exact "struct Archiver"
  fields := Archiver.fields
  toVal x := (x.storage.map Record.toVal, ())
  ofVal := fun (storage, ()) =>
    {storage := storage.map Record.ofVal}
  ofVal_toVal x := by simp [Function.comp_def]
  toVal_ofVal v := by simp [Function.comp_def]

/-- The point at which recovery stops, and whether it is included. -/
structure RecoveryTarget where
  inclusive : Bool := false
  time : Option String := none
  timeline : Option String := none
  xid : Option String := none
  deriving DecidableEq

abbrev RecoveryTarget.fields : Fields :=
  must "targetInclusive" .flag <| opt "targetTime" .text <| opt "targetTimeline" .text <|
  opt "targetXID" .text .nil

instance : Record RecoveryTarget where
  heading := .exact "struct RecoveryTarget"
  fields := RecoveryTarget.fields
  toVal x := (x.inclusive, x.time, x.timeline, x.xid, ())
  ofVal := fun (inclusive, time, timeline, xid, ()) =>
    {inclusive, time, timeline, xid}
  ofVal_toVal _ := rfl
  toVal_ofVal _ := rfl

/-- An archive to restore from. Its backend is written beside the recovery target. -/
structure WalSource where
  pitr : Option RecoveryTarget := none
  storage : StorageBackend := {}
  deriving DecidableEq

abbrev WalSource.fields : Fields :=
  opt "pitr" (Record.shape RecoveryTarget) <| StorageBackend.fields

instance : Record WalSource where
  heading := .gathered "struct WalSource" ["pitr"]
  fields := WalSource.fields
  toVal x := (x.pitr.map Record.toVal, Record.toVal x.storage)
  ofVal := fun (pitr, storage) =>
    {pitr := pitr.map Record.ofVal, storage := Record.ofVal storage}
  ofVal_toVal x := by simp [Function.comp_def]
  toVal_ofVal v := by simp [Function.comp_def]

structure ScriptSource where
  volumeSource : VolumeSource := {}
  deriving DecidableEq

abbrev ScriptSource.fields : Fields :=
  must "volumeSource" (Record.shape VolumeSource) .nil

instance : Record ScriptSource where
  heading := .exact "struct ScriptSource"
  fields := ScriptSource.fields
  toVal x := (Record.toVal x.volumeSource, ())
  ofVal := fun (volumeSource, ()) =>
    {volumeSource := Record.ofVal volumeSource}
  ofVal_toVal x := by simp
  toVal_ofVal v := by simp

/-- How a fresh instance is filled. -/
structure InitSource where
  script : Option ScriptSource := none
  postgresWal : Option WalSource := none
  deriving DecidableEq

abbrev InitSource.fields : Fields :=
  opt "script" (Record.shape ScriptSource) <| opt "postgresWAL" (Record.shape WalSource) .nil

instance : Record InitSource where
  heading := .exact "struct InitSource"
  fields := InitSource.fields
  toVal x := (x.script.map Record.toVal, x.postgresWal.map Record.toVal, ())
  ofVal := fun (script, postgresWal, ()) =>
    {script := script.map Record.ofVal, postgresWal := postgresWal.map Record.ofVal}
  ofVal_toVal x := by simp [Function.comp_def]
  toVal_ofVal v := by simp [Function.comp_def]

end PgOperator
