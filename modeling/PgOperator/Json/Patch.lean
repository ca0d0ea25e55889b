import PgOperator.Json.Basic

/-!
JSON patches: lists of `add`, `remove` and `replace` operations. `diff` gives the operations that
turn one document into another and `Patch.apply` carries operations out one after the other; the
first that does not fit the document is reported with its index.

The place of an operation is a pointer: a list of reference tokens, each a member's key or an item's
index. In its text `~` is written `~0`, `/` is written `~1` and every token follows a `/`.
-/

namespace PgOperator

/-! ### Pointers -/

/-- The reference tokens that lead to a place in a document. -/
abbrev Json.Pointer := List String

namespace Json.Pointer

/-- The characters of a reference token, escaped. -/
def escape : List Char → List Char
  | [] => []
  | '~' :: rest => '~' :: '0' :: escape rest
  | '/' :: rest => '~' :: '1' :: escape rest
  | c :: rest => c :: escape rest

/-- The characters that escaped ones stand for; a lone `~` stands for itself. -/
def unescape : List Char → List Char
  | [] => []
  | '~' :: '0' :: rest => '~' :: unescape rest
  | '~' :: '1' :: rest => '/' :: unescape rest
  | c :: rest => c :: unescape rest

theorem unescape_escape (cs : List Char) : unescape (escape cs) = cs := by
  fun_induction escape cs with
  | case1 => rfl
  | case2 rest ih => simp [unescape, ih]
  | case3 rest ih => simp [unescape, ih]
  | case4 c rest hne1 hne2 ih =>
    rw [unescape.eq_def]
    split
    · simp_all
    · simp_all
    · simp_all
    · simp_all

def text (pointer : Pointer) : String :=
  String.join (pointer.map fun token => "/" ++ String.ofList (escape token.toList))

/-- The pointer that a text spells: the empty text, or tokens that each follow a `/`. -/
def ofText? (text : String) : Option Pointer :=
  match text.toList with
  | [] => some []
  | '/' :: rest => some ((rest.splitOn '/').map fun token => String.ofList (unescape token))
  | _ => none

/-- The index that a token spells: digits without a leading zero. -/
def index? (token : String) : Option Nat :=
  match token.toList with
  | [] => none
  | ['0'] => some 0
  | '0' :: _ => none
  | cs => if cs.all Char.isDigit then
      some (cs.foldl (fun n c => 10 * n + (c.toNat - '0'.toNat)) 0)
    else none

end Json.Pointer

/-- The part of a document that a pointer leads to. -/
def Json.resolve? : Json.Pointer → Json → Option Json
  | [], doc => some doc
  | token :: rest, .obj members => (Sorted.get? token members).bind (resolve? rest)
  | token :: rest, .arr items => (Pointer.index? token).bind fun i => items[i]?.bind (resolve? rest)
  | _ :: _, _ => none

/-! ### Operations -/

namespace Json

inductive Operation where
  | add (path : Pointer) (value : Json)
  | remove (path : Pointer)
  | replace (path : Pointer) (value : Json)
  deriving DecidableEq

abbrev Patch := List Operation

namespace Operation

def path : Operation → Pointer
  | .add path _ | .remove path | .replace path _ => path

/-- The same change of a document that stands under a key or an index. -/
def below (token : String) : Operation → Operation
  | .add path value => .add (token :: path) value
  | .remove path => .remove (token :: path)
  | .replace path value => .replace (token :: path) value

def toJson : Operation → Json
  | .add path value => object [("op", .str "add"), ("path", .str path.text), ("value", value)]
  | .remove path => object [("op", .str "remove"), ("path", .str path.text)]
  | .replace path value =>
    object [("op", .str "replace"), ("path", .str path.text), ("value", value)]

/-- Changes the document that a container holds under a token. -/
def within (token : String) (change : Json → Option Json) : Json → Option Json
  | .obj members => do
    let value ← change (← Sorted.get? token members)
    return .obj (Sorted.insert token value members)
  | .arr items => do
    let i ← Pointer.index? token
    let value ← change (← items[i]?)
    return .arr (items.set i value)
  | _ => none

/-- Puts a value at a place: a new or an old member, an index up to the end, or `-`, the end. -/
def addAt (value : Json) : Pointer → Json → Option Json
  | [], _ => some value
  | [token], .obj members => some (.obj (Sorted.insert token value members))
  | [token], .arr items =>
    if token = "-" then some (.arr (items ++ [value]))
    else do
      let i ← Pointer.index? token
      if i ≤ items.length then some (.arr (items.insertIdx i value)) else none
  | [_], _ => none
  | token :: rest, doc => within token (addAt value rest) doc

/-- Takes out the member or the item at a place. -/
def removeAt : Pointer → Json → Option Json
  | [], _ => none
  | [token], .obj members => do
    let _ ← Sorted.get? token members
    return .obj (Sorted.erase token members)
  | [token], .arr items => do
    let i ← Pointer.index? token
    if i < items.length then some (.arr (items.eraseIdx i)) else none
  | [_], _ => none
  | token :: rest, doc => within token (removeAt rest) doc

/-- Replaces what stands at a place. -/
def replaceAt (value : Json) : Pointer → Json → Option Json
  | [], _ => some value
  | token :: rest, doc => within token (replaceAt value rest) doc

/-- Carries out the change; `none` if its place is not there. -/
def carryOut (doc : Json) : Operation → Option Json
  | .add path value => addAt value path doc
  | .remove path => removeAt path doc
  | .replace path value => replaceAt value path doc

end Operation

/-- The operation of a patch that found no place. -/
structure Patch.Failure where
  index : Nat
  path : Pointer

/-- Why a patch was refused. -/
def Patch.Failure.message (failure : Patch.Failure) : String :=
  "operation '/" ++ toString failure.index ++ "' failed at path '" ++ failure.path.text ++
    "': path is invalid"

/-- Carries out operations, counting them from `index`. -/
def Patch.applyFrom (index : Nat) : Patch → Json → Except Patch.Failure Json
  | [], doc => .ok doc
  | op :: rest, doc =>
    match op.carryOut doc with
    | some doc => applyFrom (index + 1) rest doc
    | none => .error ⟨index, op.path⟩

def Patch.apply (patch : Patch) (doc : Json) : Except Patch.Failure Json := applyFrom 0 patch doc

def Patch.toJson (patch : Patch) : Json := .arr (patch.map Operation.toJson)

mutual

/-- The changes that turn `before` into `after`: members and items of both are compared in turn,
members only in `after` are added, members only in `before` are removed after that, and arrays
grow and shrink at the end. -/
def diff (before : Json) : (after : Json) → Patch
  | .obj after =>
    match before with
    | .obj before =>
      diffMembers before after ++
        (before.filter fun e => (Sorted.get? e.1 after).isNone).map fun e => .remove [e.1]
    | _ => [.replace [] (.obj after)]
  | .arr after =>
    match before with
    | .arr before => diffItems 0 before after
    | _ => [.replace [] (.arr after)]
  | after => if before = after then [] else [.replace [] after]

def diffMembers (before : List (String × Json)) : (after : List (String × Json)) → Patch
  | [] => []
  | (key, value) :: rest =>
    (match Sorted.get? key before with
      | some old => (diff old value).map (.below key)
      | none => [.add [key] value]) ++ diffMembers before rest

def diffItems (i : Nat) (before : List Json) : (after : List Json) → Patch
  | [] => before.map fun _ => .remove [toString i]
  | value :: rest =>
    match before with
    | [] => .add [toString i] value :: diffItems (i + 1) [] rest
    | old :: before => (diff old value).map (.below (toString i)) ++ diffItems (i + 1) before rest

end

end Json

end PgOperator
