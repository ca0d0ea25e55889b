import PgOperator.Sorted
import PgOperator.Text

/-!
Maps from strings, such as labels and annotations. A map is its list of entries in key order, so
that maps with the same lookups are equal (`Dict.ext_get?`). As a selector of labels it is written
as a query text: terms `key=value` between commas, in key order.
-/

namespace PgOperator

/-- A finite map from strings. -/
structure Dict (α : Type) where
  entries : List (String × α)
  ordered : Sorted.Ordered entries

namespace Dict

variable {α : Type}

@[ext] theorem ext {d e : Dict α} (h : d.entries = e.entries) : d = e := by
  cases d; cases e; cases h; rfl

instance [DecidableEq α] : DecidableEq (Dict α) := fun d e =>
  if h : d.entries = e.entries then isTrue (ext h) else isFalse fun heq => h (heq ▸ rfl)

def empty : Dict α := ⟨[], Sorted.Ordered.nil⟩

instance : Inhabited (Dict α) := ⟨empty⟩

def get? (dict : Dict α) (key : String) : Option α := Sorted.get? key dict.entries

def insert (dict : Dict α) (key : String) (value : α) : Dict α :=
  ⟨Sorted.insert key value dict.entries, dict.ordered.insert key value⟩

/-- The map of the given entries, the last one of a key winning. -/
def ofList (entries : List (String × α)) : Dict α :=
  ⟨Sorted.ofList entries, Sorted.Ordered.ofList entries⟩

/-- Lays the entries of `upper` on top. -/
def extend (dict upper : Dict α) : Dict α :=
  ⟨Sorted.insertAll upper.entries dict.entries, Sorted.Ordered.insertAll dict.ordered⟩

def map {β : Type} (f : α → β) (dict : Dict α) : Dict β :=
  ⟨dict.entries.map fun e => (e.1, f e.2), dict.ordered.map fun _ => f⟩

def isEmpty (dict : Dict α) : Bool := dict.entries.isEmpty

/-- Maps with the same lookups are equal. -/
theorem ext_get? {d e : Dict α} (h : ∀ key, d.get? key = e.get? key) : d = e :=
  ext (d.ordered.ext e.ordered h)

@[simp] theorem get?_insert_self (dict : Dict α) (key : String) (value : α) :
    (dict.insert key value).get? key = some value := Sorted.get?_insert_self _ _ _

theorem get?_insert_of_ne (dict : Dict α) {key other : String} (h : other ≠ key) (value : α) :
    (dict.insert key value).get? other = dict.get? other := Sorted.get?_insert_of_ne h _ _

end Dict

/-! ### Selectors -/

namespace Selector

def text (selector : Dict String) : String :=
  Text.join "," (selector.entries.map fun e => e.1 ++ "=" ++ e.2)

/-- The terms of a text, each split at its first equals sign. -/
def terms (text : String) : List (String × String) :=
  if text = "" then []
  else (text.toList.splitOn ',').map fun term =>
    (String.ofList (term.takeWhile (· ≠ '=')), String.ofList ((term.dropWhile (· ≠ '=')).drop 1))

/-- Whether labels meet all terms of a text. -/
def isMetBy (text : String) (labels : Dict String) : Bool :=
  (terms text).all fun t => labels.get? t.1 = some t.2

end Selector

end PgOperator
