import PgOperator.Json.Basic

/-!
Documents that are laid over other ones: merge patches of RFC 7396, and documents that take the
place of others but keep what is nested in these.
-/

namespace PgOperator.Json

mutual

/-- Merges a patch document into a document: members of the patch are merged one by one, `null`
takes a member out, and a patch that is no object replaces the document. -/
def merge (doc : Json) : (patch : Json) → Json
  | .obj patch =>
    .obj (mergeMembers (match doc with | .obj members => members | _ => []) patch)
  | patch => patch

def mergeMembers (members : List (String × Json)) : (patch : List (String × Json)) →
    List (String × Json)
  | [] => members
  | (key, .null) :: rest => mergeMembers (Sorted.erase key members) rest
  | (key, value) :: rest =>
    mergeMembers (Sorted.insert key (merge ((Sorted.get? key members).getD .null) value) members)
      rest

end

/-- The desired document with the live one's nested defaults. -/
def keepNestedDefaults (live desired : Json) : Json :=
  match live, desired with
  | .obj liveFields, .obj fields =>
    .obj (fields.map fun e =>
      match Sorted.get? e.1 liveFields, e.2 with
      | some (.obj liveField), .obj field => (e.1, merge (.obj liveField) (.obj field))
      | _, field => (e.1, field))
  | _, desired => desired

end PgOperator.Json
