import ModuleDocs.Json.Printer
import ModuleDocs.Json.Token
import Mathlib.Data.List.Basic

/-!
# Proofs — Spellings of data

A *spelling* of a value is a JSON text of it: its words in order, with blanks between them as one
likes.  The printer's layout, one member a line, is one choice of blanks; no blanks at all is
another.

* `Spaces`, `Gap`: what may stand between words; a gap has a comma unless it is the first.
* `Spelled v t`: the text `t` is a spelling of `v`.  Names and texts are written as the printer
  writes them.
* `WholeIs P text`, `WholeText v text`: so is the text as a whole, but for blanks around it.
* `printAt_spelled`: what the printer writes is a spelling, at any depth.
-/

namespace ModuleDocs.Json

/-! ### Between words -/

/-- Blanks and nothing else. -/
def Spaces (w : Input) : Prop := ∀ c ∈ w, isSpace c = true

theorem Spaces.nil : Spaces [] := nofun

/-- A line break with its indentation is white space. -/
theorem spaces_newline (depth : Nat) : Spaces (newline depth) := by
  intro c hc
  rcases List.mem_cons.mp hc with rfl | hc
  · rfl
  · rw [List.eq_of_mem_replicate hc]
    rfl

/-- What stands before a member or an element: blanks, with a comma among them unless it is the
first. -/
inductive Gap : Bool → Input → Prop where
  | first {w : Input} : Spaces w → Gap true w
  | next {w w' : Input} : Spaces w → Spaces w' → Gap false (w ++ ',' :: w')

/-! ### Spellings -/

mutual

/-- The text is a spelling of the value. -/
inductive Spelled : Value → Input → Prop where
  | yes : Spelled (.bool true) ['t', 'r', 'u', 'e']
  | no : Spelled (.bool false) ['f', 'a', 'l', 's', 'e']
  | number (n : Nat) : Spelled (.number n) (Nat.toDigits 10 n)
  | text (s : String) : Spelled (.text s) (printText s)
  | list {vs : List Value} {t : Input} :
      SpelledItems true vs t → Spelled (.list vs) ('[' :: (t ++ [']']))
  | object {ms : List (String × Value)} {t : Input} :
      SpelledMembers true ms t → Spelled (.object ms) ('\x7b' :: (t ++ ['\x7d']))

/-- The text spells elements and the blanks behind them. -/
inductive SpelledItems : Bool → List Value → Input → Prop where
  | nil {first : Bool} {w : Input} : Spaces w → SpelledItems first [] w
  | cons {first : Bool} {w t u : Input} {v : Value} {vs : List Value} : Gap first w →
      Spelled v t → SpelledItems false vs u → SpelledItems first (v :: vs) (w ++ (t ++ u))

/-- The text spells members and the blanks behind them. -/
inductive SpelledMembers : Bool → List (String × Value) → Input → Prop where
  | nil {first : Bool} {w : Input} : Spaces w → SpelledMembers first [] w
  | cons {first : Bool} {w w₁ w₂ t u : Input} {k : String} {v : Value}
      {ms : List (String × Value)} : Gap first w → Spaces w₁ → Spaces w₂ → Spelled v t →
      SpelledMembers false ms u →
      SpelledMembers first ((k, v) :: ms) (w ++ (printText k ++ (w₁ ++ ':' :: (w₂ ++ (t ++ u)))))

end

/-- The whole text is as said, but for blanks around it. -/
def WholeIs (P : Input → Prop) (text : String) : Prop :=
  ∃ w t w', Spaces w ∧ P t ∧ Spaces w' ∧ text = String.ofList (w ++ (t ++ w'))

/-- A whole text of one kind is one of every wider kind. -/
theorem WholeIs.mono {P Q : Input → Prop} {text : String} (h : WholeIs P text)
    (hPQ : ∀ t, P t → Q t) : WholeIs Q text := by
  obtain ⟨w, t, w', hw, ht, hw', rfl⟩ := h
  exact ⟨w, t, w', hw, hPQ t ht, hw', rfl⟩

/-- The text is a spelling of the value and, perhaps, blanks around it. -/
def WholeText (v : Value) (text : String) : Prop := WholeIs (Spelled v) text

/-! ### The printer -/

/-- The elements, each of which is spelled, behind what makes a gap of the line feed in front of
them. -/
theorem printItems_spelled {depth : Nat} {v : Value} {vs : List Value}
    (h : ∀ u ∈ v :: vs, Spelled u (printAt depth u)) {first : Bool} {g w : Input}
    (hg : Gap first (g ++ newline depth)) (hw : Spaces w) :
    SpelledItems first (v :: vs) (g ++ (printItems depth (v :: vs) ++ w)) := by
  induction vs generalizing v first g with
  | nil =>
      have hs : SpelledItems first [v] (g ++ newline depth ++ (printAt depth v ++ w)) :=
        .cons hg (h v List.mem_cons_self) (.nil hw)
      simpa only [printItems, List.append_assoc] using hs
  | cons v' vs ih =>
      have hrest : SpelledItems false (v' :: vs) ([','] ++ (printItems depth (v' :: vs) ++ w)) :=
        ih (fun u hu => h u (List.mem_cons_of_mem v hu)) (.next .nil (spaces_newline depth))
      have hs : SpelledItems first (v :: v' :: vs) (g ++ newline depth ++
          (printAt depth v ++ ([','] ++ (printItems depth (v' :: vs) ++ w)))) :=
        .cons hg (h v List.mem_cons_self) hrest
      simpa only [printItems, List.append_assoc, List.cons_append, List.nil_append] using hs

/-- The members, likewise. -/
theorem printMembers_spelled {depth : Nat} {m : String × Value} {ms : List (String × Value)}
    (h : ∀ n ∈ m :: ms, Spelled n.2 (printAt depth n.2)) {first : Bool} {g w : Input}
    (hg : Gap first (g ++ newline depth)) (hw : Spaces w) :
    SpelledMembers first (m :: ms) (g ++ (printMembers depth (m :: ms) ++ w)) := by
  have hblank : Spaces [' '] := by simp [Spaces, isSpace]
  induction ms generalizing m first g with
  | nil =>
      obtain ⟨k, v⟩ := m
      have hs : SpelledMembers first [(k, v)] (g ++ newline depth ++
          (printText k ++ ([] ++ ':' :: ([' '] ++ (printAt depth v ++ w))))) :=
        .cons hg .nil hblank (h _ List.mem_cons_self) (.nil hw)
      simpa only [printMembers, List.append_assoc, List.cons_append, List.nil_append] using hs
  | cons m' ms ih =>
      obtain ⟨k, v⟩ := m
      have hrest : SpelledMembers false (m' :: ms)
          ([','] ++ (printMembers depth (m' :: ms) ++ w)) :=
        ih (fun n hn => h n (List.mem_cons_of_mem _ hn)) (.next .nil (spaces_newline depth))
      have hs : SpelledMembers first ((k, v) :: m' :: ms) (g ++ newline depth ++
          (printText k ++ ([] ++ ':' :: ([' '] ++ (printAt depth v ++
            ([','] ++ (printMembers depth (m' :: ms) ++ w))))))) :=
        .cons hg .nil hblank (h _ List.mem_cons_self) hrest
      simpa only [printMembers, List.append_assoc, List.cons_append, List.nil_append] using hs

/-- **What the printer writes is a spelling.** -/
theorem printAt_spelled (depth : Nat) : ∀ v : Value, Spelled v (printAt depth v)
  | .bool true => .yes
  | .bool false => .no
  | .number n => .number n
  | .text s => .text s
  | .list [] => .list (.nil .nil)
  | .object [] => .object (.nil .nil)
  | .list (v :: vs) => by
      have h : ∀ u ∈ v :: vs, Spelled u (printAt (depth + 1) u) := fun u _ =>
        printAt_spelled (depth + 1) u
      have hs : SpelledItems true (v :: vs) ([] ++ _) :=
        printItems_spelled h (.first (spaces_newline _)) (spaces_newline depth)
      exact .list hs
  | .object (m :: ms) => by
      have h : ∀ n ∈ m :: ms, Spelled n.2 (printAt (depth + 1) n.2) := fun n _ =>
        printAt_spelled (depth + 1) n.2
      have hs : SpelledMembers true (m :: ms) ([] ++ _) :=
        printMembers_spelled h (.first (spaces_newline _)) (spaces_newline depth)
      exact .object hs
termination_by v => sizeOf v
decreasing_by
  · have hu : sizeOf u < sizeOf (v :: vs) := List.sizeOf_lt_of_mem ‹_›
    simp only [Value.list.sizeOf_spec]
    omega
  · have hn : sizeOf n < sizeOf (m :: ms) := List.sizeOf_lt_of_mem ‹_›
    have hv : sizeOf n.2 < sizeOf n := by
      cases n
      simp only [Prod.mk.sizeOf_spec]
      omega
    simp only [Value.object.sizeOf_spec]
    omega

/-- **What is printed spells the value.** -/
theorem print_wholeText (v : Value) : WholeText v (print v) :=
  ⟨[], printAt 0 v, [], .nil, printAt_spelled 0 v, .nil, by rw [List.append_nil]; rfl⟩

end ModuleDocs.Json
