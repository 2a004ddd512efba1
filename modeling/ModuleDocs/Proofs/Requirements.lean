import ModuleDocs.Dependency
import ModuleDocs.Proofs.Blanks

/-!
# Proofs — What a tag requires

The text of a `requires` tag names a dependency: its first word is the name, and what follows, less
the blanks around it, is the description.  Blanks only keep the parts apart, so a dependency has
many spellings, and they differ in nothing but blanks.

* `Dependency.NamedBy`: the parts of a text that make the dependency, said without the reader.
* `Dependency.SpelledBy`: the spellings of a dependency.
* `ofTagValue_eq_some_iff`: the reader finds the parts, and nothing else.
* `NamedBy.iff_spelledBy`: the texts that name a dependency are its spellings.
-/

namespace ModuleDocs

/-! ### The parts of a text -/

namespace Dependency

/-- The text names the dependency: behind blanks, the name is the first run of other characters, as
long as it goes, and the description is what follows it without the blanks around. -/
def NamedBy (d : Dependency) (v : String) : Prop :=
  ∃ before rest : String, v = before ++ d.name ++ rest ∧ Text.allBlank before = true ∧
    d.name ≠ "" ∧ (∀ c ∈ d.name.toList, Text.isBlank c = false) ∧
    (∀ c ∈ rest.toList.head?, Text.isBlank c = true) ∧ d.description = Text.trim rest

/-- The text is a spelling of the dependency: its parts in order, with blanks around them and
between them.  Where there is no description there need be no blanks behind the name. -/
def SpelledBy (d : Dependency) (v : String) : Prop :=
  ∃ before gap after : String, v = before ++ d.name ++ gap ++ d.description ++ after ∧
    Text.allBlank before = true ∧ Text.allBlank gap = true ∧ Text.allBlank after = true ∧
    (gap = "" → d.description = "")

section

variable {d : Dependency} {v : String}

/-- A text that is not blank has the parts. -/
theorem exists_namedBy (h : Text.allBlank v = false) : ∃ d : Dependency, d.NamedBy v := by
  have hne : Text.trimLeft v.toList ≠ [] := by
    intro hnil
    rw [Text.allBlank, List.all_eq_true.mpr (List.dropWhile_eq_nil_iff.mp hnil)] at h
    cases h
  obtain ⟨c, cs, hwords⟩ := List.exists_cons_of_ne_nil hne
  have hc : Text.isBlank c = false := by
    have hhead := List.head?_dropWhile_not Text.isBlank v.toList
    rw [← Text.trimLeft, hwords] at hhead
    simpa using hhead
  let rest := cs.dropWhile (!Text.isBlank ·)
  refine ⟨⟨String.ofList (c :: cs.takeWhile (!Text.isBlank ·)), Text.trim (String.ofList rest)⟩,
    String.ofList (v.toList.takeWhile Text.isBlank), String.ofList rest, ?_, ?_, ?_, ?_, ?_, rfl⟩
  · rw [← String.toList_inj]
    simp [rest, List.takeWhile_append_dropWhile, ← hwords, Text.trimLeft]
  · simp [Text.allBlank]
  · simp
  · intro b hb
    rw [String.toList_ofList] at hb
    rcases List.mem_cons.mp hb with rfl | hb
    · exact hc
    · simpa using List.mem_takeWhile_imp hb
  · intro b hb
    rw [String.toList_ofList] at hb
    have hhead := List.head?_dropWhile_not (!Text.isBlank ·) cs
    rw [Option.mem_def.mp hb] at hhead
    simpa using hhead

/-- **The reader finds the parts.** -/
theorem NamedBy.ofTagValue (h : d.NamedBy v) : Dependency.ofTagValue v = some d := by
  obtain ⟨before, rest, rfl, hbefore, hname, hsolid, hrest, hdescription⟩ := h
  have hne : d.name.toList ≠ [] := by simpa using hname
  -- blanks go before the name and at the very end, and what is left starts with the name
  have htrim : Text.trimChars (before ++ d.name ++ rest).toList =
      d.name.toList ++ Text.trimRight rest.toList := by
    rw [String.toList_append, String.toList_append, List.append_assoc, Text.trimChars,
      Text.trimLeft_append (List.all_eq_true.mp hbefore), Text.trimLeft_eq_self,
      Text.trimRight_append_of_solid hne hsolid]
    intro c hc
    rw [List.head?_append_of_ne_nil _ hne] at hc
    exact hsolid c (List.mem_of_mem_head? hc)
  have hboundary : ∀ c ∈ (Text.trimRight rest.toList).head?, (!Text.isBlank c) = false := by
    intro c hc
    obtain ⟨t, ht⟩ := List.rdropWhile_prefix Text.isBlank rest.toList
    rw [← Text.trimRight_eq] at ht
    simpa using hrest c (by rw [← ht, List.head?_append, hc, Option.some_or]; rfl)
  have hword : ∀ c ∈ d.name.toList, (!Text.isBlank c) = true := fun c hc => by simp [hsolid c hc]
  unfold Dependency.ofTagValue
  split
  case h_1 hnil =>
      rw [htrim] at hnil
      exact absurd (List.append_eq_nil_iff.mp hnil).1 hne
  case h_2 c cs hcons =>
      rw [← hcons, htrim, Text.takeWhile_run hword hboundary,
        Text.dropWhile_run hword hboundary, Text.trimChars_trimRight, String.ofList_toList]
      rw [Text.trim] at hdescription
      rw [← hdescription]

theorem ofTagValue_eq_none_iff : ofTagValue v = none ↔ Text.allBlank v = true := by
  rw [Text.allBlank, List.all_eq_true, ← Text.trimChars_eq_nil_iff, ofTagValue]
  split
  case h_1 h => exact iff_of_true rfl h
  case h_2 h => exact iff_of_false (Option.some_ne_none _) (h ▸ List.cons_ne_nil _ _)

theorem ofTagValue_eq_some_iff : ofTagValue v = some d ↔ d.NamedBy v := by
  refine ⟨fun h => ?_, NamedBy.ofTagValue⟩
  have hv : Text.allBlank v = false := by
    rw [← Bool.not_eq_true, ← ofTagValue_eq_none_iff, h]
    exact nofun
  obtain ⟨e, he⟩ := exists_namedBy hv
  rw [he.ofTagValue, Option.some_inj] at h
  exact h ▸ he

/-! ### Spellings -/

/-- A text that names a dependency is one of its spellings. -/
theorem NamedBy.spelledBy (h : d.NamedBy v) : d.SpelledBy v := by
  obtain ⟨before, rest, rfl, hbefore, -, -, hrest, hdescription⟩ := h
  obtain ⟨gap, after, hgap, hafter, hparts⟩ := Text.exists_trimChars rest.toList
  have hchars : d.description.toList = Text.trimChars rest.toList := by
    rw [hdescription, Text.trim, String.toList_ofList]
  refine ⟨before, String.ofList gap, String.ofList after, ?_, hbefore, ?_, ?_, ?_⟩
  · rw [← String.toList_inj]
    simpa [hchars] using hparts
  · rw [Text.allBlank, String.toList_ofList, List.all_eq_true]
    exact hgap
  · rw [Text.allBlank, String.toList_ofList, List.all_eq_true]
    exact hafter
  · -- without blanks in front the description would go on with the name
    intro hnone
    rw [String.ofList_eq_empty_iff] at hnone
    rw [← String.toList_eq_nil_iff, ← List.head?_eq_none_iff, Option.eq_none_iff_forall_ne_some]
    intro c hc
    have hblank : Text.isBlank c = true := hrest c (by
      rw [hparts, hnone, List.nil_append, List.head?_append, ← hchars, hc]
      rfl)
    rw [Text.head?_trimChars _ c (hchars ▸ hc)] at hblank
    cases hblank

/-- **The texts that name a dependency are its spellings,** once there is one that does. -/
theorem NamedBy.iff_spelledBy (h : d.NamedBy v) (w : String) : d.NamedBy w ↔ d.SpelledBy w := by
  refine ⟨NamedBy.spelledBy, ?_⟩
  rintro ⟨before, gap, after, rfl, hbefore, hgap, hafter, hapart⟩
  obtain ⟨-, rest, -, -, hname, hsolid, -, hdescription⟩ := h
  refine ⟨before, gap ++ d.description ++ after, ?_, hbefore, hname, hsolid, ?_, ?_⟩
  · simp only [String.append_assoc]
  · intro c hc
    by_cases hnone : gap = ""
    · rw [hnone, hapart hnone, String.empty_append, String.empty_append] at hc
      exact List.all_eq_true.mp hafter c (List.mem_of_mem_head? hc)
    · rw [String.toList_append, String.toList_append, List.append_assoc,
        List.head?_append_of_ne_nil _ (by simpa using hnone)] at hc
      exact List.all_eq_true.mp hgap c (List.mem_of_mem_head? hc)
  · have htrim : Text.trim d.description = d.description := by
      rw [hdescription, Text.trim_trim]
    rw [Text.trim, String.toList_append, String.toList_append,
      Text.trimChars_append (List.all_eq_true.mp hgap) (List.all_eq_true.mp hafter), ← Text.trim,
      htrim]

end

/-- Blanks around a text are not read. -/
theorem ofTagValue_surrounded {before after : String} (hbefore : Text.allBlank before = true)
    (hafter : Text.allBlank after = true) (v : String) :
    ofTagValue (before ++ v ++ after) = ofTagValue v := by
  rw [ofTagValue, String.toList_append, String.toList_append,
    Text.trimChars_append (List.all_eq_true.mp hbefore) (List.all_eq_true.mp hafter), ofTagValue]

/-- **A text gives a dependency in canonical form.**  A blank text gives none, and every other one
gives one.  Its name is the first run of the text that holds no blanks, and its description is what
follows without the blanks around it.  Blanks around the text do not count, and the texts that give
the same dependency are its spellings, which differ in their blanks alone. -/
theorem ofTagValue_canonical (v : String) :
    (ofTagValue v = none ↔ ∀ c ∈ v.toList, Text.isBlank c = true) ∧
      (∀ before after : String, Text.allBlank before = true → Text.allBlank after = true →
        ofTagValue (before ++ v ++ after) = ofTagValue v) ∧
      ∀ d, ofTagValue v = some d →
        d.name ≠ "" ∧ (∀ c ∈ d.name.toList, Text.isBlank c = false) ∧
          (∀ c ∈ d.description.toList.head?, Text.isBlank c = false) ∧
          (∀ c ∈ d.description.toList.getLast?, Text.isBlank c = false) ∧
          d.NamedBy v ∧ ∀ w, ofTagValue w = some d ↔ d.SpelledBy w := by
  refine ⟨ofTagValue_eq_none_iff.trans List.all_eq_true, fun _ _ h h' =>
    ofTagValue_surrounded h h' v, fun d hd => ?_⟩
  have hnamed := ofTagValue_eq_some_iff.mp hd
  obtain ⟨-, rest, -, -, hname, hsolid, -, hdescription⟩ := id hnamed
  have hchars : d.description.toList = Text.trimChars rest.toList := by
    rw [hdescription, Text.trim, String.toList_ofList]
  refine ⟨hname, hsolid, ?_, ?_, hnamed, fun w => ?_⟩
  · exact hchars ▸ Text.head?_trimChars rest.toList
  · exact hchars ▸ Text.getLast?_trimChars rest.toList
  · rw [ofTagValue_eq_some_iff, hnamed.iff_spelledBy w]

/-- Blanks of every kind come between the parts, and inside the description they stay. -/
theorem ofTagValue_canonical_blanks :
    let v := "\u3000lib/view\t\u00a0 draws  it \n"
    let d : Dependency := ⟨"lib/view", "draws  it"⟩
    ofTagValue v = some d ∧ d.SpelledBy v ∧ ofTagValue "lib/view draws  it" = some d := by
  have hd : ofTagValue "\u3000lib/view\t\u00a0 draws  it \n" = some ⟨"lib/view", "draws  it"⟩ := by
    decide
  have hspelled := (ofTagValue_canonical _).2.2 _ hd |>.2.2.2.2.2
  refine ⟨hd, (hspelled _).mp hd, (hspelled _).mpr ⟨"", " ", "", ?_⟩⟩
  decide

/-- A name alone is its own spelling, and blanks behind it make no description. -/
example : ofTagValue "view" = some ⟨"view", ""⟩ ∧ ofTagValue "view \u2003" = some ⟨"view", ""⟩ ∧
    ofTagValue " \u0085" = none := by
  decide

end Dependency

end ModuleDocs
