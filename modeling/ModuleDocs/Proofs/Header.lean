import ModuleDocs.Proofs.Blanks
import ModuleDocs.Proofs.Buckets
import ModuleDocs.Proofs.Sorting

/-!
# Proofs — The header of a module

The header is what a module says of itself: its description, whether it is deprecated and why, and
what it requires.  It comes from the seed, or from the first comment that describes the module if
the seed has no description.

* `Comment.Describes`: the comments that describe a module, said without the reader.
* `Draft.lead_addAll`, `Draft.lead_addAll_first`: what reading a stream does to the header.  Only
  the first describing comment counts, and none does once the module has its description, even an
  empty one.
* `Dependency.foldl_addNew`: a dependency is added if none before it has its name.
* `header_exact`: the header of a finished module.
-/

namespace ModuleDocs

/-! ### Notes -/

namespace Text

/-- The text without the blanks around it, unless nothing is left. -/
def note? (s : String) : Option String := if trim s = "" then none else some (trim s)

end Text

/-! ### Comments that describe a module -/

namespace Comment

/-- The comment documents no entity, and either it says that it describes the module or its code,
without the blanks in front, starts with the marker; an empty marker marks nothing. -/
def Describes (marker : String) (c : Comment) : Prop :=
  c.context = none ∧ (c.kind = .description ∨
    marker ≠ "" ∧ marker.toList <+: c.code.toList.dropWhile Text.isBlank)

/-- The rules know the comments that describe the module by their marker. -/
theorem describesModule_iff (rules : Rules) (c : Comment) :
    rules.describesModule c = true ↔ c.Describes rules.marker := by
  rw [Rules.describesModule, Describes, Bool.and_eq_true, Option.isNone_iff_eq_none,
    Bool.or_eq_true, decide_eq_true_iff, Bool.and_eq_true, List.isPrefixOf_iff_prefix]
  simp [Text.trimLeft]

instance (marker : String) (c : Comment) : Decidable (c.Describes marker) :=
  decidable_of_iff _ (describesModule_iff { render := id, marker } c)

/-- A comment that describes a module has no context. -/
theorem Describes.role {marker : String} {c : Comment} (h : c.Describes marker) :
    c.role = .contextless := by
  rw [Comment.role, Comment.contextKind, h.1]
  rfl

/-- What the comment says of the module's deprecation: the native value, else the value of the
first tag. -/
def deprecationText? (c : Comment) : Option String :=
  c.nativeTags.deprecated <|> (c.tags.find? (·.is "deprecated")).map (·.value)

theorem deprecation?_eq (c : Comment) : c.deprecation? = c.deprecationText?.map Text.trim := by
  unfold deprecation? deprecationText? tagValue?
  cases c.nativeTags.deprecated with
  | some v => simp only [Option.orElse_eq_orElse, Option.orElse_some, Option.map_some]
  | none => simp [Tag.text, Function.comp_def]

end Comment

/-! ### Dependencies -/

namespace Dependency

/-- The dependencies whose names none of `base` has, of those with one name the first. -/
def novel (base ds : List Dependency) : List Dependency :=
  (ds.filter fun d => !base.any (·.name = d.name)).eraseDupsBy fun d e => d.name = e.name

/-- A dependency that is there is not added again. -/
theorem novel_cons_of_mem {base : List Dependency} {d : Dependency}
    (h : base.any (·.name = d.name) = true) (ds : List Dependency) :
    novel base (d :: ds) = novel base ds := by
  rw [novel, List.filter_cons, h]
  rfl

/-- A new dependency is added, and counts for the later ones. -/
theorem novel_cons_of_notMem {base : List Dependency} {d : Dependency}
    (h : base.any (·.name = d.name) = false) (ds : List Dependency) :
    novel base (d :: ds) = d :: novel (base ++ [d]) ds := by
  rw [novel, List.filter_cons, h, Bool.not_false, if_pos rfl, List.eraseDupsBy_cons,
    List.filter_filter, novel]
  congr 2
  refine List.filter_congr fun e _ => ?_
  rw [List.any_append, List.any_cons, List.any_nil, Bool.or_false, Bool.not_or, Bool.and_comm]
  simp [eq_comm]

/-- **Dependencies one by one.**  Each is added unless its name is there already. -/
theorem foldl_addNew (base ds : List Dependency) :
    ds.foldl addNew base = base ++ novel base ds := by
  induction ds generalizing base with
  | nil => exact (List.append_nil base).symm
  | cons d ds ih =>
      rw [List.foldl_cons, ih, addNew]
      cases h : base.any (·.name = d.name) with
      | true => rw [if_pos rfl, novel_cons_of_mem h]
      | false =>
          rw [if_neg Bool.false_ne_true, novel_cons_of_notMem h, List.append_assoc,
            List.singleton_append]

end Dependency

/-! ### Reading -/

/-- The header of a module. -/
structure Lead where
  description : String
  isDeprecated : Bool
  deprecationMessage : Option String
  dependencies : List Dependency

/-- The header of a module's documentation. -/
def ModuleDoc.lead (r : ModuleDoc) : Lead where
  description := r.description
  isDeprecated := r.isDeprecated
  deprecationMessage := r.deprecationMessage
  dependencies := r.dependencies

/-- The header with what a describing comment says. -/
def Lead.describe (l : Lead) (render : String → String) (c : Comment) : Lead where
  description := render c.description
  isDeprecated := c.deprecationText?.isSome || l.isDeprecated
  deprecationMessage := c.deprecationText?.elim l.deprecationMessage Text.note?
  dependencies := l.dependencies ++ Dependency.novel l.dependencies c.dependencies

/-- A description that says so marks the module as deprecated. -/
theorem Lead.describe_deprecated {c : Comment} {text : String}
    (h : c.deprecationText? = some text) (l : Lead) (render : String → String) :
    (l.describe render c).isDeprecated = true ∧
      (l.describe render c).deprecationMessage = Text.note? text := by
  simp only [Lead.describe, h, Option.isSome_some, Bool.true_or, Option.elim_some, and_self]

/-- One that does not leaves the mark as it was. -/
theorem Lead.describe_not_deprecated {c : Comment} (h : c.deprecationText? = none) (l : Lead)
    (render : String → String) :
    (l.describe render c).isDeprecated = l.isDeprecated ∧
      (l.describe render c).deprecationMessage = l.deprecationMessage := by
  simp only [Lead.describe, h, Option.isSome_none, Bool.false_or, Option.elim_none, and_self]

theorem ModuleDoc.lead_describe (r : ModuleDoc) (render : String → String) (c : Comment) :
    (r.describe render c).lead = r.lead.describe render c := by
  unfold ModuleDoc.describe ModuleDoc.lead Lead.describe
  rw [Dependency.foldl_addNew, c.deprecation?_eq]
  cases c.deprecationText? with
  | none => rfl
  | some text =>
      simp only [Option.map_some, withDeprecation, String.isEmpty_iff, Option.isSome_some,
        Bool.true_or, Option.elim_some, Text.note?]

namespace Draft

/-- The first comment that describes the module is taken. -/
theorem takesDescription_iff {d : Draft} {rules : Rules} {c : Comment} :
    d.takesDescription rules c = true ↔ d.described = false ∧ c.Describes rules.marker := by
  rw [takesDescription, Bool.and_eq_true, Bool.not_eq_true', Comment.describesModule_iff]

/-- The comment from which the description is taken. -/
theorem add_of_takes {d : Draft} {rules : Rules} {c : Comment}
    (h : d.takesDescription rules c = true) :
    d.add rules c = { d with header := d.header.describe rules.render c, described := true } := by
  rw [add_eq, bucket, (takesDescription_iff.mp h).2.role]
  dsimp only
  rw [if_pos h, fill]

/-- No other comment changes the header. -/
theorem lead_add {d : Draft} {rules : Rules} {c : Comment}
    (h : d.takesDescription rules c = false) :
    (d.add rules c).header.lead = d.header.lead ∧ (d.add rules c).described = d.described := by
  obtain ⟨b, hb, hadd⟩ := d.add_cases rules c
  rw [hadd]
  cases hb with
  | description _ ht => exact absurd (h.symm.trans ht) Bool.false_ne_true
  | _ => exact ⟨rfl, rfl⟩

/-- Where the module has its description, or no comment describes it, the header stays. -/
theorem lead_addAll {d : Draft} {rules : Rules} {cs : List Comment}
    (h : d.described = true ∨ ∀ c ∈ cs, ¬ c.Describes rules.marker) :
    (d.addAll rules cs).header.lead = d.header.lead ∧
      (d.addAll rules cs).described = d.described := by
  induction cs generalizing d with
  | nil => exact ⟨rfl, rfl⟩
  | cons c cs ih =>
      have hc : d.takesDescription rules c = false := by
        rw [← Bool.not_eq_true, takesDescription_iff]
        rintro ⟨hd, hc⟩
        rcases h with h | h
        · exact Bool.false_ne_true (hd.symm.trans h)
        · exact h c List.mem_cons_self hc
      have hl := lead_add hc
      have hr := ih (d := d.add rules c) <| by
        rw [hl.2]
        exact h.imp_right fun h e he => h e (List.mem_cons_of_mem c he)
      exact ⟨hr.1.trans hl.1, hr.2.trans hl.2⟩

/-- **The first comment that describes the module.**  Those before it leave the header, and those
behind it do too, since the module then has its description. -/
theorem lead_addAll_first {d : Draft} {rules : Rules} {before after : List Comment} {c : Comment}
    (hd : d.described = false) (hb : ∀ e ∈ before, ¬ e.Describes rules.marker)
    (hc : c.Describes rules.marker) :
    (d.addAll rules (before ++ c :: after)).header.lead =
      d.header.lead.describe rules.render c := by
  have hbefore := lead_addAll (d := d) (Or.inr hb)
  have ht : (d.addAll rules before).takesDescription rules c = true :=
    takesDescription_iff.mpr ⟨hbefore.2.trans hd, hc⟩
  rw [addAll, List.foldl_append, List.foldl_cons, ← addAll, ← addAll, add_of_takes ht,
    (lead_addAll (Or.inl rfl)).1, ModuleDoc.lead_describe, hbefore.1]

/-- Finishing sorts the dependencies and leaves the rest of the header. -/
theorem lead_finish (d : Draft) :
    d.finish.lead = { d.header.lead with
      dependencies := sortDependencies d.header.lead.dependencies } :=
  rfl

end Draft

namespace Assembler

/-- The header in which the first comment is read is the seed's. -/
theorem start_lead (a : Assembler) (module : Identity) (cs : List Comment) :
    (a.start module cs).header.lead = (a.seed module).lead ∧
      (a.start module cs).described = !(a.seed module).description.isEmpty := by
  unfold start
  cases a.resolution <;> exact ⟨rfl, rfl⟩

/-- **The header of a module.**  Where the seed has a description, or no comment describes the
module, the header is the seed's.  Else the first describing comment gives the description, and what
it says of deprecation and dependencies; its dependencies come behind those of the seed.  Finally
dependencies are sorted by their names in lower case. -/
theorem header_exact (a : Assembler) (module : Identity) (comments : List Comment) :
    let seed := a.seed module
    let stream := comments.map a.prepare
    let doc := a.assemble module comments
    let byName (d : Dependency) := Text.lower d.name
    (seed.description ≠ "" ∨ (∀ c ∈ stream, ¬ c.Describes a.marker) →
      doc.description = seed.description ∧ doc.isDeprecated = seed.isDeprecated ∧
        doc.deprecationMessage = seed.deprecationMessage ∧
        SortedBy byName seed.dependencies doc.dependencies) ∧
    ∀ before c after, seed.description = "" → stream = before ++ c :: after →
      (∀ e ∈ before, ¬ e.Describes a.marker) → c.Describes a.marker →
      doc.description = a.render c.description ∧
        (∀ text, c.deprecationText? = some text →
          doc.isDeprecated = true ∧ doc.deprecationMessage = Text.note? text) ∧
        (c.deprecationText? = none → doc.isDeprecated = seed.isDeprecated ∧
          doc.deprecationMessage = seed.deprecationMessage) ∧
        SortedBy byName (seed.dependencies ++ Dependency.novel seed.dependencies c.dependencies)
          doc.dependencies := by
  intro seed stream doc byName
  obtain ⟨hlead, hdescribed⟩ := a.start_lead module stream
  have hdoc : doc.lead = { (a.draft module comments).header.lead with
      dependencies := sortBy byName (a.draft module comments).header.lead.dependencies } :=
    (a.draft module comments).lead_finish
  have hsort : ∀ ds, SortedBy byName ds (sortBy byName ds) := sortBy_sortedBy byName
  constructor
  · intro h
    have hkeep : (a.draft module comments).header.lead = seed.lead := by
      refine (Draft.lead_addAll ?_).1.trans hlead
      refine h.imp_left fun hd => ?_
      rw [hdescribed, Bool.not_eq_true', String.isEmpty_eq_false_iff]
      exact hd
    rw [hkeep] at hdoc
    injection hdoc with h₁ h₂ h₃ h₄
    exact ⟨h₁, h₂, h₃, h₄ ▸ hsort _⟩
  · intro before c after hd hs hb hc
    have hfirst : (a.draft module comments).header.lead = seed.lead.describe a.render c := by
      have hnone : (a.start module stream).described = false := by
        rw [hdescribed, Bool.not_eq_false', String.isEmpty_iff]
        exact hd
      have hl : ((a.start module stream).addAll a.rules (before ++ c :: after)).header.lead = _ :=
        Draft.lead_addAll_first hnone hb hc
      rwa [← hs, hlead] at hl
    rw [hfirst] at hdoc
    injection hdoc with h₁ h₂ h₃ h₄
    refine ⟨h₁, fun text ht => ?_, fun ht => ?_, h₄ ▸ hsort _⟩
    · obtain ⟨hi, hm⟩ := Lead.describe_deprecated ht seed.lead a.render
      exact ⟨h₂.trans hi, h₃.trans hm⟩
    · obtain ⟨hi, hm⟩ := Lead.describe_not_deprecated ht seed.lead a.render
      exact ⟨h₂.trans hi, h₃.trans hm⟩

/-- Two describing comments, the first of which has no text: it takes the place of the description
all the same, and what requires the same module in another case is another dependency. -/
theorem header_exact_blank :
    let empty : Comment :=
      { kind := .description, nativeTags := { deprecated := some "  " },
        tags := [⟨"@requires", "dom the tree"⟩, ⟨"requires", "Dom"⟩, ⟨"requires", "app"⟩,
          ⟨"requires", "dom again"⟩] }
    let late : Comment := { kind := .description, description := "late" }
    let doc := ({ render := id } : Assembler).assemble ⟨"m", "m.js"⟩ [empty, late]
    doc.description = "" ∧ doc.isDeprecated = true ∧ doc.deprecationMessage = none ∧
      doc.dependencies = [⟨"app", ""⟩, ⟨"dom", "the tree"⟩, ⟨"Dom", ""⟩] := by
  intro empty late doc
  obtain ⟨-, h⟩ := header_exact { render := id } ⟨"m", "m.js"⟩ [empty, late]
  obtain ⟨h₁, h₂, -, h₄⟩ := h [] empty [late] rfl rfl (by simp) (by decide)
  have hd : Dependency.novel [] empty.dependencies =
      [⟨"dom", "the tree"⟩, ⟨"Dom", ""⟩, ⟨"app", ""⟩] := by decide
  have hs : SortedBy (fun d : Dependency => Text.lower d.name)
      [⟨"dom", "the tree"⟩, ⟨"Dom", ""⟩, ⟨"app", ""⟩]
      [⟨"app", ""⟩, ⟨"dom", "the tree"⟩, ⟨"Dom", ""⟩] := by decide
  have h₄ : SortedBy _ (Dependency.novel [] empty.dependencies) doc.dependencies := h₄
  rw [hd, sortedBy_iff, ← sortedBy_iff.mp hs] at h₄
  exact ⟨h₁, (h₂ "  " rfl).1, (h₂ "  " rfl).2, h₄⟩

end Assembler

end ModuleDocs
