import ModuleDocs.Proofs.Header
import ModuleDocs.Proofs.Stream

/-!
# Proofs — Visible variables and functions

The variables and functions of a module are collected in the order of its comments and sorted by
name at the end, when those that are not known to be public are left out.  Nothing else is added to
them, and nothing is taken away before the end: classes, mixins and members are kept elsewhere.

* `Comment.declaresVariable`, `Comment.documentsFunction`: the comments that are collected, said
  without the reader.
* `Draft.collected_add`, `Draft.collected_addAll`: what one comment adds, and what a stream does.
* `visible_exact`: the variables and functions of a finished module.
-/

namespace ModuleDocs

namespace Comment

/-- It documents a declaration and has no tag `mixin`. -/
def declaresVariable (c : Comment) : Bool :=
  c.contextKind = some .declaration && !c.hasTag "mixin"

/-- It documents a function that is no constructor. -/
def documentsFunction (c : Comment) : Bool :=
  c.contextKind = some .function && !c.isConstructor

theorem declaresVariable_eq (c : Comment) :
    c.declaresVariable = decide (c.role = .topVariable) := by
  unfold role declaresVariable
  rcases c.contextKind with _ | (_ | _ | _ | _ | _)
  · rfl
  · cases c.hasTag "mixin" <;> rfl
  · cases c.isConstructor <;> rfl
  all_goals rfl

theorem documentsFunction_eq (c : Comment) :
    c.documentsFunction = decide (c.role = .topFunction) := by
  unfold role documentsFunction
  rcases c.contextKind with _ | (_ | _ | _ | _ | _)
  · rfl
  · cases c.hasTag "mixin" <;> rfl
  · cases c.isConstructor <;> rfl
  all_goals rfl

end Comment

/-- A description leaves the variables and functions. -/
theorem ModuleDoc.collected_describe (r : ModuleDoc) (render : String → String) (c : Comment) :
    (r.describe render c).vars = r.vars ∧ (r.describe render c).functions = r.functions := by
  unfold describe
  cases c.deprecation? <;> exact ⟨rfl, rfl⟩

namespace Draft

/-- **What one comment adds** to the variables and functions: itself, or nothing. -/
theorem collected_add (rules : Rules) (d : Draft) (c : Comment) :
    (d.add rules c).header.vars = d.header.vars ++ [c].filter (·.declaresVariable) ∧
      (d.add rules c).header.functions =
        d.header.functions ++ [c].filter (·.documentsFunction) := by
  simp only [List.filter_cons, List.filter_nil, c.declaresVariable_eq, c.documentsFunction_eq]
  obtain ⟨b, hb, hadd⟩ := d.add_cases rules c
  rw [hadd]
  cases hb with
  | description hr _ => simpa [fill, hr] using d.header.collected_describe rules.render c
  | registered hr _ => rcases hr with hr | hr <;> simp [fill, hr]
  | classes hr _ | mixins hr _ | members hr _ _ | contextless hr _ | ownerless hr _ | vars hr
  | functions hr | unknown hr => simp [fill, hr]

/-- **What a stream adds:** its comments of either kind, in their order. -/
theorem collected_addAll (rules : Rules) (d : Draft) (cs : List Comment) :
    (d.addAll rules cs).header.vars = d.header.vars ++ cs.filter (·.declaresVariable) ∧
      (d.addAll rules cs).header.functions =
        d.header.functions ++ cs.filter (·.documentsFunction) := by
  induction cs generalizing d with
  | nil => exact ⟨(List.append_nil _).symm, (List.append_nil _).symm⟩
  | cons c cs ih =>
      obtain ⟨hv, hf⟩ := collected_add rules d c
      obtain ⟨hvs, hfs⟩ := ih (d.add rules c)
      have hstep : d.addAll rules (c :: cs) = (d.add rules c).addAll rules cs := rfl
      rw [hstep, hvs, hfs, hv, hf, List.append_assoc, List.append_assoc, ← List.filter_append,
        ← List.filter_append]
      exact ⟨rfl, rfl⟩

end Draft

namespace Assembler

/-- Registering owners beforehand leaves the variables and functions of the seed. -/
theorem start_collected (a : Assembler) (module : Identity) (cs : List Comment) :
    (a.start module cs).header.vars = (a.seed module).vars ∧
      (a.start module cs).header.functions = (a.seed module).functions := by
  unfold start
  cases a.resolution <;> exact ⟨rfl, rfl⟩

/-- The comments that are collected for a module: those of the seed and then those of the stream. -/
theorem draft_collected (a : Assembler) (module : Identity) (comments : List Comment) :
    (a.draft module comments).header.vars =
        (a.seed module).vars ++ (comments.map a.prepare).filter (·.declaresVariable) ∧
      (a.draft module comments).header.functions =
        (a.seed module).functions ++ (comments.map a.prepare).filter (·.documentsFunction) := by
  obtain ⟨hv, hf⟩ := Draft.collected_addAll a.rules
    (a.start module (comments.map a.prepare)) (comments.map a.prepare)
  obtain ⟨hsv, hsf⟩ := a.start_collected module (comments.map a.prepare)
  exact ⟨hv.trans (by rw [hsv]), hf.trans (by rw [hsf])⟩

/-- **The visible variables and functions of a module.**  With either way to find owners, the
variables are those of the seed and then the declarations of the stream that declare no mixin, as
far as they are known not to be private: each as often as it occurs, by name, and those of one name
in their order.  The functions likewise are those of the seed and then the functions of the stream
that are no constructors.  It does not matter whether the private ones are left out before or after
sorting. -/
theorem visible_exact (a : Assembler) (module : Identity) (comments : List Comment) :
    let seed := a.seed module
    let stream := comments.map a.prepare
    let doc := a.assemble module comments
    let vars := seed.vars ++ stream.filter (·.declaresVariable)
    let functions := seed.functions ++ stream.filter (·.documentsFunction)
    let visible (c : Comment) : Bool := c.isPrivate = some false
    (StableSort (vars.filter visible) doc.vars ∧ doc.vars.Perm (vars.filter visible) ∧
      doc.vars = sortByName (vars.filter visible) ∧
      doc.vars = (sortByName vars).filter visible) ∧
    (StableSort (functions.filter visible) doc.functions ∧
      doc.functions.Perm (functions.filter visible) ∧
      doc.functions = sortByName (functions.filter visible) ∧
      doc.functions = (sortByName functions).filter visible) := by
  intro seed stream doc vars functions visible
  obtain ⟨hv, hf⟩ := a.draft_collected module comments
  have exact_of {collected shown : List Comment}
      (h : shown = (sortByName collected).filter visible) :
      StableSort (collected.filter visible) shown ∧ shown.Perm (collected.filter visible) ∧
        shown = sortByName (collected.filter visible) ∧
        shown = (sortByName collected).filter visible := by
    have hs : shown = sortByName (collected.filter visible) :=
      h.trans (filter_sortBy visible Comment.name collected)
    refine ⟨stableSort_iff.mpr hs, ?_, hs, h⟩
    rw [hs]
    exact sortBy_perm Comment.name _
  have hvars : doc.vars = (sortByName (a.draft module comments).header.vars).filter visible := rfl
  have hfunctions : doc.functions =
      (sortByName (a.draft module comments).header.functions).filter visible := rfl
  rw [hv] at hvars
  rw [hf] at hfunctions
  exact ⟨exact_of hvars, exact_of hfunctions⟩

/-- Two functions of one name keep their order, and a constructor is none of them. -/
example :
    let f (isPrivate : Option Bool) (description : String) (isConstructor : Bool) : Comment :=
      { context := some { kind := .function, name := "f" }, isPrivate, description, isConstructor }
    (({ render := id } : Assembler).assemble ⟨"m", "m.js"⟩
        [f (some false) "1" false, f none "2" false, f (some false) "3" true,
          f (some false) "4" false]).functions.map (·.description) = ["1", "4"] := by
  cbv

end Assembler

end ModuleDocs
