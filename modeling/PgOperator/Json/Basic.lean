import PgOperator.Decimal
import PgOperator.Sorted

/-!
JSON documents. An object is a list of members whose keys increase, so that two documents with
the same members are the same document. A number written with a fraction or an exponent is a
`real`, and never an integer.
-/

namespace PgOperator

inductive Json where
  | null
  | bool (value : Bool)
  | int (value : Int)
  | real (value : Decimal)
  | str (value : String)
  | arr (items : List Json)
  | obj (members : List (String × Json))

namespace Json

instance : Inhabited Json := ⟨.null⟩

mutual

def decEq : (a b : Json) → Decidable (a = b)
  | .null, .null => isTrue rfl
  | .bool a, .bool b => if h : a = b then isTrue (h ▸ rfl) else isFalse (by simpa using h)
  | .int a, .int b => if h : a = b then isTrue (h ▸ rfl) else isFalse (by simpa using h)
  | .real a, .real b => if h : a = b then isTrue (h ▸ rfl) else isFalse (by simpa using h)
  | .str a, .str b => if h : a = b then isTrue (h ▸ rfl) else isFalse (by simpa using h)
  | .arr a, .arr b =>
    match decEqItems a b with
    | isTrue h => isTrue (h ▸ rfl)
    | isFalse h => isFalse (by simpa using h)
  | .obj a, .obj b =>
    match decEqMembers a b with
    | isTrue h => isTrue (h ▸ rfl)
    | isFalse h => isFalse (by simpa using h)
  | .null, .bool _ | .null, .int _ | .null, .real _ | .null, .str _ | .null, .arr _ => isFalse nofun
  | .null, .obj _ | .bool _, .null | .bool _, .int _ | .bool _, .real _ => isFalse nofun
  | .bool _, .str _ | .bool _, .arr _ | .bool _, .obj _ | .int _, .null => isFalse nofun
  | .int _, .bool _ | .int _, .real _ | .int _, .str _ | .int _, .arr _ => isFalse nofun
  | .int _, .obj _ | .real _, .null | .real _, .bool _ | .real _, .int _ => isFalse nofun
  | .real _, .str _ | .real _, .arr _ | .real _, .obj _ | .str _, .null => isFalse nofun
  | .str _, .bool _ | .str _, .int _ | .str _, .real _ | .str _, .arr _ => isFalse nofun
  | .str _, .obj _ | .arr _, .null | .arr _, .bool _ | .arr _, .int _ => isFalse nofun
  | .arr _, .real _ | .arr _, .str _ | .arr _, .obj _ | .obj _, .null => isFalse nofun
  | .obj _, .bool _ | .obj _, .int _ | .obj _, .real _ | .obj _, .str _ => isFalse nofun
  | .obj _, .arr _ => isFalse nofun

def decEqItems : (a b : List Json) → Decidable (a = b)
  | [], [] => isTrue rfl
  | [], _ :: _ | _ :: _, [] => isFalse nofun
  | a :: as, b :: bs =>
    match decEq a b, decEqItems as bs with
    | isTrue h, isTrue hs => isTrue (h ▸ hs ▸ rfl)
    | isFalse h, _ => isFalse fun heq => h (List.cons.inj heq).1
    | _, isFalse hs => isFalse fun heq => hs (List.cons.inj heq).2

def decEqMembers : (a b : List (String × Json)) → Decidable (a = b)
  | [], [] => isTrue rfl
  | [], _ :: _ | _ :: _, [] => isFalse nofun
  | (k, a) :: as, (l, b) :: bs =>
    if hk : k = l then
      match decEq a b, decEqMembers as bs with
      | isTrue h, isTrue hs => isTrue (hk ▸ h ▸ hs ▸ rfl)
      | isFalse h, _ => isFalse fun heq => h (Prod.mk.inj (List.cons.inj heq).1).2
      | _, isFalse hs => isFalse fun heq => hs (List.cons.inj heq).2
    else isFalse fun heq => hk (Prod.mk.inj (List.cons.inj heq).1).1

end

instance : DecidableEq Json := decEq

/-- An object of the given members, brought into key order. -/
def object (members : List (String × Json)) : Json := .obj (Sorted.ofList members)

/-- The member of an object under a key; other documents have none. -/
def get? (key : String) : Json → Option Json
  | .obj members => Sorted.get? key members
  | _ => none

/-- The document under a key, with `null` standing for an absent one. -/
def getD (key : String) (doc : Json) : Json := (doc.get? key).getD .null

/-- Sets the member of an object under a key; a document that is no object stays as it is. -/
def set (doc : Json) (key : String) (value : Json) : Json :=
  match doc with
  | .obj members => .obj (Sorted.insert key value members)
  | doc => doc

def isObject : Json → Bool
  | .obj _ => true
  | _ => false

def text? : Json → Option String
  | .str value => some value
  | _ => none

mutual

/-- The keys of every object in the document increase. -/
def Ordered : Json → Prop
  | .arr items => OrderedItems items
  | .obj members => Sorted.Ordered members ∧ OrderedMembers members
  | _ => True

def OrderedItems : List Json → Prop
  | [] => True
  | item :: rest => item.Ordered ∧ OrderedItems rest

def OrderedMembers : List (String × Json) → Prop
  | [] => True
  | (_, value) :: rest => value.Ordered ∧ OrderedMembers rest

end

theorem orderedItems_iff {items : List Json} :
    OrderedItems items ↔ ∀ item ∈ items, item.Ordered := by
  induction items with
  | nil => simp [OrderedItems]
  | cons item rest ih => simp [OrderedItems, ih]

theorem orderedMembers_iff {members : List (String × Json)} :
    OrderedMembers members ↔ ∀ e ∈ members, e.2.Ordered := by
  induction members with
  | nil => simp [OrderedMembers]
  | cons e rest ih => simp [OrderedMembers, ih]

theorem ordered_arr {items : List Json} : (arr items).Ordered ↔ ∀ item ∈ items, item.Ordered := by
  rw [Ordered, orderedItems_iff]

theorem ordered_obj {members : List (String × Json)} :
    (obj members).Ordered ↔ Sorted.Ordered members ∧ ∀ e ∈ members, e.2.Ordered := by
  rw [Ordered, orderedMembers_iff]

/-- An object of ordered members is ordered. -/
theorem ordered_object {members : List (String × Json)} (h : ∀ e ∈ members, e.2.Ordered) :
    (object members).Ordered :=
  ordered_obj.2 ⟨Sorted.Ordered.ofList members, fun e he => h e (Sorted.mem_of_mem_ofList he)⟩

mutual

/-- The document with the members of all its objects brought into order, the last one of a key
winning. -/
def inOrder : Json → Json
  | .arr items => .arr (inOrderItems items)
  | .obj members => object (inOrderMembers members)
  | doc => doc

def inOrderItems : List Json → List Json
  | [] => []
  | item :: rest => item.inOrder :: inOrderItems rest

def inOrderMembers : List (String × Json) → List (String × Json)
  | [] => []
  | (key, value) :: rest => (key, value.inOrder) :: inOrderMembers rest

end

mutual

theorem ordered_inOrder : (doc : Json) → doc.inOrder.Ordered
  | .null | .bool _ | .int _ | .real _ | .str _ => trivial
  | .arr items => ordered_arr.2 (ordered_inOrderItems items)
  | .obj members => ordered_object (ordered_inOrderMembers members)

theorem ordered_inOrderItems : (items : List Json) → ∀ item ∈ inOrderItems items, item.Ordered
  | [] => by simp [inOrderItems]
  | item :: rest => by
    rw [inOrderItems, List.forall_mem_cons]
    exact ⟨ordered_inOrder item, ordered_inOrderItems rest⟩

theorem ordered_inOrderMembers :
    (members : List (String × Json)) → ∀ e ∈ inOrderMembers members, e.2.Ordered
  | [] => by simp [inOrderMembers]
  | (key, value) :: rest => by
    rw [inOrderMembers, List.forall_mem_cons]
    exact ⟨ordered_inOrder value, ordered_inOrderMembers rest⟩

end

mutual

theorem inOrder_of_ordered : {doc : Json} → doc.Ordered → doc.inOrder = doc
  | .null, _ | .bool _, _ | .int _, _ | .real _, _ | .str _, _ => rfl
  | .arr _, h => congrArg arr (inOrderItems_of_ordered h)
  | .obj _, h => by
    rw [inOrder, inOrderMembers_of_ordered h.2, object, Sorted.ofList_of_ordered h.1]

theorem inOrderItems_of_ordered : {items : List Json} → OrderedItems items →
    inOrderItems items = items
  | [], _ => rfl
  | _ :: _, h => by rw [inOrderItems, inOrder_of_ordered h.1, inOrderItems_of_ordered h.2]

theorem inOrderMembers_of_ordered : {members : List (String × Json)} → OrderedMembers members →
    inOrderMembers members = members
  | [], _ => rfl
  | (_, _) :: _, h => by rw [inOrderMembers, inOrder_of_ordered h.1, inOrderMembers_of_ordered h.2]

end

theorem inOrder_ne_null {doc : Json} (h : doc ≠ .null) : doc.inOrder ≠ .null := by
  cases doc <;> simp_all [inOrder, object]

abbrev Present := { doc : Json // doc ≠ .null ∧ doc.Ordered }

/-- The document as one that is there; `null` is none. -/
def present? (doc : Json) : Option Present :=
  if h : doc = .null then none else some ⟨doc.inOrder, inOrder_ne_null h, ordered_inOrder doc⟩

end Json

end PgOperator
