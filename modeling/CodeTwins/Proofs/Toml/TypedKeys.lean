import CodeTwins.Decimal.Number
import CodeTwins.Toml.Value

/-!
# Keys and the kinds of their values

A key leads through the tables of a document to a value, which is to be of one kind. Where every value
is of the kind of its key, what the document sets can be told key by key.
-/
namespace CodeTwins.Toml

variable {β : Type} {doc : Fields}

namespace Value

/-- The value to which names lead, each of a field of the table before. -/
def at? (v : Value) : List String → Option Value
  | [] => some v
  | name :: rest =>
    match v with
    | table fields => (field? name fields).bind (at? · rest)
    | _ => none

def text? : Value → Option String
  | str s => some s
  | _ => none

/-- A list of texts, or a text that stands for a list of one. -/
def texts? : Value → Option (List String)
  | str s => some [s]
  | array items => items.mapM text?
  | _ => none

def number? : Value → Option Number
  | int n => some (.whole n)
  | float x => some (.real x)
  | _ => none

def integer? : Value → Option Int
  | int n => some n
  | _ => none

def table? : Value → Option Fields
  | table fields => some fields
  | _ => none

def items? : Value → Option (List Value)
  | array items => some items
  | _ => none

/-- A number as the value it is read of. -/
def ofNumber : Number → Value
  | .whole n => int n
  | .real x => float x

theorem eq_of_text? {v : Value} {s : String} (h : v.text? = some s) : v = str s := by
  cases v with
  | str s' => rw [← Option.some.inj h]
  | _ => cases h

theorem eq_of_number? {v : Value} {n : Number} (h : v.number? = some n) : v = ofNumber n := by
  cases v with
  | int n' => rw [← Option.some.inj h, ofNumber]
  | float x => rw [← Option.some.inj h, ofNumber]
  | _ => cases h

theorem eq_of_integer? {v : Value} {n : Int} (h : v.integer? = some n) : v = int n := by
  cases v with
  | int n' => rw [← Option.some.inj h]
  | _ => cases h

theorem eq_of_table? {v : Value} {fields : Fields} (h : v.table? = some fields) :
    v = table fields := by
  cases v with
  | table fields' => rw [← Option.some.inj h]
  | _ => cases h

theorem eq_of_items? {v : Value} {items : List Value} (h : v.items? = some items) :
    v = array items := by
  cases v with
  | array items' => rw [← Option.some.inj h]
  | _ => cases h

end Value

/-- Where a value of some kind is looked for. -/
structure TypedKey (β : Type) where
  path : List String
  read : Value → Option β

namespace TypedKey

/-- What a document sets. -/
def get? (k : TypedKey β) (doc : Fields) : Option β :=
  ((Value.table doc).at? k.path).bind k.read

/-- Whether the value is of its kind, if there is one. -/
def Typed (k : TypedKey β) (doc : Fields) : Prop :=
  ∀ v ∈ (Value.table doc).at? k.path, (k.read v).isSome = true

instance (k : TypedKey β) (doc : Fields) : Decidable (k.Typed doc) :=
  inferInstanceAs (Decidable (∀ v ∈ (Value.table doc).at? k.path, (k.read v).isSome = true))

theorem at?_name {name : String} : (Value.table doc).at? [name] = field? name doc := by
  simp [Value.at?]

theorem get?_eq_none {name : String} {read : Value → Option β} (h : field? name doc = none) :
    (mk [name] read).get? doc = none := by
  rw [get?, at?_name, h, Option.bind_none]

/-- What is set is what is read of the value. -/
theorem Typed.exists_read {name : String} {read : Value → Option β} {v : Value}
    (h : (mk [name] read).Typed doc) (hv : field? name doc = some v) :
    ∃ x, read v = some x ∧ (mk [name] read).get? doc = some x := by
  have hat : (Value.table doc).at? [name] = some v := by rw [at?_name, hv]
  obtain ⟨x, hx⟩ := Option.isSome_iff_exists.mp (h v hat)
  exact ⟨x, hx, by rw [get?, hat, Option.bind_some, hx]⟩

/-- Where the kind tells the value, the field is known with what is set. -/
theorem Typed.field?_eq {name : String} {read : Value → Option β} {put : β → Value}
    (hput : ∀ v x, read v = some x → v = put x) (h : (mk [name] read).Typed doc) :
    field? name doc = ((mk [name] read).get? doc).map put := by
  cases hfield : field? name doc with
  | none => rw [get?_eq_none hfield, Option.map_none]
  | some v =>
    obtain ⟨x, hread, hget⟩ := h.exists_read hfield
    rw [hget, Option.map_some, hput v x hread]

/-- A key within a table of the document. -/
def within (name : String) (k : TypedKey β) : TypedKey β :=
  ⟨name :: k.path, k.read⟩

/-- Two keys that lead to the same value, each in a table of its own. -/
structure Coincides (k : TypedKey β) (doc : Fields) (k' : TypedKey β) (fields : Fields) : Prop where
  get?_eq : k.get? doc = k'.get? fields
  typed_iff : k.Typed doc ↔ k'.Typed fields

theorem Coincides.trans {k k' k'' : TypedKey β} {fields fields' : Fields}
    (h : k.Coincides doc k' fields) (h' : k'.Coincides fields k'' fields') :
    k.Coincides doc k'' fields' :=
  ⟨h.get?_eq.trans h'.get?_eq, h.typed_iff.trans h'.typed_iff⟩

/-- The keys within a table are those of it. A table that is not there sets nothing. -/
theorem exists_table {name : String} (h : (mk [name] Value.table?).Typed doc) :
    ∃ fields, (field? name doc).getD (.table []) = .table fields ∧
      ∀ {β : Type} (first : String) (rest : List String) (read : Value → Option β),
        (within name ⟨first :: rest, read⟩).Coincides doc ⟨first :: rest, read⟩ fields := by
  cases hfield : field? name doc with
  | none =>
    refine ⟨[], rfl, fun first rest read => ⟨?_, ?_⟩⟩
    · simp [get?, within, Value.at?, hfield, field?]
    · simp [Typed, within, Value.at?, hfield, field?]
  | some v =>
    obtain ⟨fields, hread, -⟩ := h.exists_read hfield
    obtain rfl := Value.eq_of_table? hread
    refine ⟨fields, rfl, fun first rest read => ⟨?_, ?_⟩⟩
    · simp [get?, within, Value.at?, hfield]
    · simp [Typed, within, Value.at?, hfield]

end TypedKey

end CodeTwins.Toml
