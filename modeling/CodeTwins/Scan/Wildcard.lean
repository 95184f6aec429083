/-!
# Wildcard patterns

A star stands for any run of characters, slashes among them, a question mark for any one character,
and a set in brackets for one of its characters. A pattern is matched against the whole of a text.
-/
namespace CodeTwins

/-- A character of a set, or all from one to another. -/
inductive SetItem where
  | char (c : Char)
  | range (low high : Char)
deriving DecidableEq, Repr

/-- Whether an item holds a character. A range that runs backwards holds none. -/
def SetItem.holds : SetItem → Char → Bool
  | char d, c => d == c
  | range low high, c => low ≤ c && c ≤ high

def SetItem.isEmpty : SetItem → Bool
  | char _ => false
  | range low high => high < low

namespace Wildcard

/-- A part of a pattern. -/
inductive Part where
  | run
  | any
  | char (c : Char)
  | oneOf (negated : Bool) (items : List SetItem)
deriving DecidableEq, Repr

/-- What stands before the next closing bracket, and what follows it. -/
def untilClosing : List Char → Option (List Char × List Char)
  | [] => none
  | ']' :: rest => some ([], rest)
  | c :: rest => (untilClosing rest).map fun (set, after) => (c :: set, after)

/-- The inside of a set and what follows it. A closing bracket that comes first is one of the set. -/
def setText? : List Char → Option (List Char × List Char)
  | '!' :: ']' :: rest => (untilClosing rest).map fun (set, after) => ('!' :: ']' :: set, after)
  | ']' :: rest => (untilClosing rest).map fun (set, after) => (']' :: set, after)
  | cs => untilClosing cs

def itemsOf : List Char → List SetItem
  | [] => []
  | a :: '-' :: b :: rest => .range a b :: itemsOf rest
  | c :: rest => .char c :: itemsOf rest

/-- The set of items that hold something. One that starts with an exclamation mark is negated, and a
range from that mark is then the hyphen and its last character. -/
def ofItems : List SetItem → Part
  | .char '!' :: rest => .oneOf true rest
  | .range '!' last :: rest => .oneOf true (.char '-' :: .char last :: rest)
  | items => .oneOf false items

def setOf (text : List Char) : Part :=
  let items := match text with
    | '!' :: rest => SetItem.char '!' :: itemsOf rest
    | _ => itemsOf text
  ofItems (items.filter (!·.isEmpty))

/-- A run before some parts; a second run adds nothing. -/
def runBefore : List Part → List Part
  | .run :: parts => .run :: parts
  | parts => .run :: parts

private theorem untilClosing_length {cs set after : List Char}
    (h : untilClosing cs = some (set, after)) : after.length < cs.length := by
  fun_induction untilClosing cs generalizing set with
  | case1 => simp at h
  | case2 rest => simp_all
  | case3 c rest _ ih =>
    obtain ⟨⟨s, a⟩, hr, he⟩ := Option.map_eq_some_iff.1 h
    simp only [Prod.mk.injEq] at he
    have := ih (he.2 ▸ hr)
    simp only [List.length_cons]
    omega

private theorem setText?_length {cs set after : List Char} (h : setText? cs = some (set, after)) :
    after.length < cs.length := by
  unfold setText? at h
  split at h
  · obtain ⟨⟨s, a⟩, hr, he⟩ := Option.map_eq_some_iff.1 h
    simp only [Prod.mk.injEq] at he
    have := untilClosing_length (he.2 ▸ hr)
    simp only [List.length_cons]
    omega
  · obtain ⟨⟨s, a⟩, hr, he⟩ := Option.map_eq_some_iff.1 h
    simp only [Prod.mk.injEq] at he
    have := untilClosing_length (he.2 ▸ hr)
    simp only [List.length_cons]
    omega
  · exact untilClosing_length h

/-- The parts of a written pattern. An opening bracket without a closing one stands for itself. -/
def ofText : List Char → List Part
  | [] => []
  | '*' :: rest => runBefore (ofText rest)
  | '?' :: rest => .any :: ofText rest
  | '[' :: rest =>
    match _h : setText? rest with
    | some (set, after) => setOf set :: ofText after
    | none => .char '[' :: ofText rest
  | c :: rest => .char c :: ofText rest
termination_by cs => cs.length
decreasing_by
  · simp
  · simp
  · have := setText?_length _h
    simp only [List.length_cons]
    omega
  · simp
  · simp

def Part.accepts : Part → Char → Bool
  | run, _ => true
  | any, _ => true
  | char d, c => d == c
  | oneOf negated items, c => items.any (·.holds c) != negated

/-- A text and all that remains of it when characters are taken from its start. -/
def suffixes : List Char → List (List Char)
  | [] => [[]]
  | c :: cs => (c :: cs) :: suffixes cs

def isMatch : List Part → List Char → Bool
  | [], text => text.isEmpty
  | .run :: parts, text => (suffixes text).any (isMatch parts)
  | part :: parts, c :: text => part.accepts c && isMatch parts text
  | _ :: _, [] => false

end Wildcard
end CodeTwins
