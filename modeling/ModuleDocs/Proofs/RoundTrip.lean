import ModuleDocs.Output
import ModuleDocs.Proofs.CommentForms
import Mathlib.Data.List.Forall2
import Mathlib.Data.List.Nodup

/-!
# Proofs — Records read back

Comments and documentation are read back from any spelling of the data they are written as.  A
spelling is one of the forms that present a record: its fields in their order and under their first
names, of which those that have their defaults may be left out.

* `Form.Admits form v a`: every spelling of the data `v` presents `a`.
* `Fills r slots ms`: the members `ms` are those of the record `r`, slot by slot.
* `Plan.admits`: members that fill the slots of a record present it.
* `Comment.admits`, `ModuleDoc.admits`, and the like for what they are made of.
* `json_roundTrip`: what is written is what is read.
-/

namespace ModuleDocs.Json

/-! ### Spellings as forms -/

/-- An escaped character is one of the spellings of it. -/
theorem charText_escapeChar (c : Char) : CharText c (escapeChar c) := by
  unfold escapeChar
  split_ifs with hq hb h₁ h₂ h₃ h₄ h₅ hc
  case pos | pos | pos | pos | pos | pos | pos => subst c; exact .letter (by decide)
  case pos =>
    have hdigit : ∀ n < 16, HexDigit n (hexDigit n) := by decide
    have hunit : CodeUnit (((0 * 16 + 0) * 16 + c.toNat / 16) * 16 + c.toNat % 16)
        ['0', '0', hexDigit (c.toNat / 16), hexDigit (c.toNat % 16)] :=
      .digits (by decide) (by decide) (hdigit _ (by omega)) (hdigit _ (by omega))
    have hn : ((0 * 16 + 0) * 16 + c.toNat / 16) * 16 + c.toNat % 16 = c.toNat := by omega
    rw [hn] at hunit
    exact .unit hunit
  case neg => exact .plain ⟨hq, hb, Nat.not_lt.mp hc⟩

/-- A text is printed as a string that says it. -/
theorem stringText_printText (s : String) : StringText s (printText s) := by
  have hchars : ∀ cs : List Char, Chars cs (cs.flatMap escapeChar) := by
    intro cs
    induction cs with
    | nil => exact .nil
    | cons c cs ih => exact .cons (charText_escapeChar c) ih
  exact ⟨_, hchars s.toList, rfl⟩

/-- The items of a spelled list are spellings of the values. -/
theorem SpelledItems.items {first : Bool} {vs : List Value} {t : Input}
    (h : SpelledItems first vs t) : ∃ ts, List.Forall₂ Spelled vs ts ∧ Items first ts t := by
  induction vs generalizing first t with
  | nil =>
      obtain ⟨hw⟩ | _ := h
      exact ⟨[], .nil, .nil hw⟩
  | cons v vs ih =>
      obtain _ | ⟨hg, hv, hrest⟩ := h
      obtain ⟨ts, hts, hu⟩ := ih hrest
      exact ⟨_ :: ts, .cons hv hts, .cons hg hu⟩

/-- The text is a spelling of the member's value, and its key is the member's. -/
def SpelledMember (m : String × Value) (n : String × Input) : Prop := n.1 = m.1 ∧ Spelled m.2 n.2

/-- The members of a spelled object are spellings of the members. -/
theorem SpelledMembers.members {first : Bool} {ms : List (String × Value)} {t : Input}
    (h : SpelledMembers first ms t) :
    ∃ ns, List.Forall₂ SpelledMember ms ns ∧ Members StringText first ns t := by
  induction ms generalizing first t with
  | nil =>
      obtain ⟨hw⟩ | _ := h
      exact ⟨[], .nil, .nil hw⟩
  | cons m ms ih =>
      obtain _ | ⟨hg, hw₁, hw₂, hv, hrest⟩ := h
      obtain ⟨ns, hns, hu⟩ := ih hrest
      exact ⟨_ :: ns, .cons ⟨rfl, hv⟩ hns,
        .cons hg (stringText_printText _) hw₁ hw₂ hu⟩

/-- Every spelling of the data presents the value. -/
def Form.Admits {α : Type} (form : Form α) (v : Value) (a : α) : Prop :=
  ∀ ⦃t⦄, Spelled v t → form.presents a t

namespace Form

variable {α : Type}

theorem text_admits (s : String) : Form.text.Admits (.text s) s := by
  rintro _ ⟨⟩
  exact stringText_printText s

theorem flag_admits (b : Bool) : Form.flag.Admits (.bool b) b := by
  rintro _ ⟨⟩ <;> rfl

/-- A choice is written under one of the names that it goes by. -/
theorem choice_admits {goesBy : α → String → Prop} {a : α} {name : String} (h : goesBy a name) :
    (Form.choice goesBy).Admits (.text name) a := by
  rintro _ ⟨⟩
  exact ⟨name, h, .inl (stringText_printText name)⟩

/-- Data of lists present lists if those of their elements present the elements. -/
theorem list_admits {form : Form α} {f : α → Value} (h : ∀ a, form.Admits (f a) a) (as : List α) :
    form.list.Admits (.list (as.map f)) as := by
  rintro _ ⟨⟩
  rename_i t ht
  obtain ⟨ts, hts, hu⟩ := ht.items
  have hpresents : List.Forall₂ form.presents as ts :=
    (List.forall₂_map_left_iff.mp hts).imp fun a _ ha => h a ha
  exact ⟨ts, t, hpresents, hu, rfl⟩

end Form

/-! ### Records -/

variable {σ : Type}

/-- The members are those of the record: a field is written under its name, or left out if it has
its default. -/
inductive Fills (r : σ) : List (Slot σ) → List (String × Value) → Prop where
  | nil : Fills r [] []
  | present {slot : Slot σ} {slots : List (Slot σ)} {v : Value} {ms : List (String × Value)} :
      slot.form.Admits v (slot.get r) → Fills r slots ms →
      Fills r (slot :: slots) ((slot.name, v) :: ms)
  | absent {slot : Slot σ} {slots : List (Slot σ)} {ms : List (String × Value)} :
      slot.default = some (slot.get r) → Fills r slots ms → Fills r (slot :: slots) ms

namespace Fills

variable {r : σ} {slots : List (Slot σ)} {ms : List (String × Value)}

/-- The keys of the members are names of slots, in their order. -/
theorem keys_sublist (h : Fills r slots ms) {ns : List (String × Input)}
    (hns : List.Forall₂ SpelledMember ms ns) :
    (ns.map Prod.fst).Sublist (slots.map (·.name)) := by
  induction h generalizing ns with
  | nil =>
      cases hns
      exact .refl _
  | present _ _ ih =>
      obtain _ | ⟨hn, hns⟩ := hns
      rw [List.map_cons, List.map_cons, hn.1]
      exact (ih hns).cons_cons _
  | absent _ _ ih => exact (ih hns).cons _

/-- Each member that is written presents the value of its slot. -/
theorem shows (h : Fills r slots ms) {ns : List (String × Input)}
    (hns : List.Forall₂ SpelledMember ms ns) :
    ∀ n ∈ ns, ∃ slot ∈ slots, slot.name = n.1 ∧ slot.form.presents (slot.get r) n.2 := by
  induction h generalizing ns with
  | nil =>
      cases hns
      exact List.forall_mem_nil _
  | @present slot slots _ _ hv _ ih =>
      obtain _ | ⟨hn, hns⟩ := hns
      refine List.forall_mem_cons.mpr ⟨⟨slot, List.mem_cons_self, hn.1.symm, hv hn.2⟩, ?_⟩
      intro n hmem
      obtain ⟨slot', hslot', hshow⟩ := ih hns n hmem
      exact ⟨slot', List.mem_cons_of_mem slot hslot', hshow⟩
  | @absent slot _ _ _ _ ih =>
      intro n hmem
      obtain ⟨slot', hslot', hshow⟩ := ih hns n hmem
      exact ⟨slot', List.mem_cons_of_mem slot hslot', hshow⟩

/-- A slot for which no member is written holds its default. -/
theorem default_of_notMem (h : Fills r slots ms) {ns : List (String × Input)}
    (hns : List.Forall₂ SpelledMember ms ns) :
    ∀ slot ∈ slots, slot.name ∉ ns.map Prod.fst → slot.default = some (slot.get r) := by
  induction h generalizing ns with
  | nil => exact List.forall_mem_nil _
  | present _ _ ih =>
      obtain _ | ⟨hn, hns⟩ := hns
      rw [List.map_cons, List.forall_mem_cons, hn.1]
      exact ⟨fun hmem => absurd List.mem_cons_self hmem, fun slot hslot hmem =>
        ih hns slot hslot fun h => hmem (List.mem_cons_of_mem _ h)⟩
  | absent hdefault _ ih => exact List.forall_mem_cons.mpr ⟨fun _ => hdefault, ih hns⟩

section

variable {α : Type} {form : Form α} {name : String} {aliases : List String} {get : σ → Option α}
  {f : α → Value}

/-- A field that is left out when it is not set. -/
theorem optional (h : ∀ a, form.Admits (f a) a) (hrest : Fills r slots ms) :
    Fills r ({ name, aliases, default := some none, get, form := form.optional } :: slots)
      (Value.member? name ((get r).map f) ++ ms) := by
  cases hget : get r with
  | none => exact .absent (congrArg some hget.symm) hrest
  | some a =>
      have hadmits : form.optional.Admits (f a) (get r) := by
        rw [hget]
        exact h a
      exact .present hadmits hrest

/-- The same of the last field. -/
theorem optionalLast (h : ∀ a, form.Admits (f a) a) :
    Fills r [{ name, aliases, default := some none, get, form := form.optional }]
      (Value.member? name ((get r).map f)) := by
  rw [← List.append_nil (Value.member? name ((get r).map f))]
  exact .optional h .nil

end

end Fills

/-- **Members that fill the slots of a record present it.** -/
theorem Plan.admits {schema : Schema σ} {slots : List (Slot σ)} (plan : Plan schema slots) {r : σ}
    {ms : List (String × Value)} (h : Fills r slots ms) :
    (Form.record slots).Admits (.object ms) r := by
  rintro _ ⟨⟩
  rename_i t ht
  obtain ⟨ns, hns, hu⟩ := ht.members
  -- a member that goes by some name of a slot has its first name for a key
  have hkey : ∀ slot ∈ slots, ∀ n ∈ ns, slot.GoesBy n.1 →
      n.1 = slot.name ∧ slot.form.presents (slot.get r) n.2 := by
    intro slot hslot n hn hgoes
    obtain ⟨slot', hslot', hname, hshow⟩ := h.shows hns n hn
    obtain rfl := plan.slot_unique hslot hslot' hgoes (hname ▸ List.mem_cons_self)
    exact ⟨hname.symm, hshow⟩
  have htimes : ∀ slot ∈ slots, slot.times ns = (ns.map Prod.fst).count slot.name := by
    intro slot hslot
    rw [Slot.times, List.count_eq_countP, List.countP_map]
    refine List.countP_congr fun n hn => ?_
    rw [decide_eq_true_iff, Function.comp_apply, beq_iff_eq]
    refine ⟨fun hgoes => (hkey slot hslot n hn hgoes).1, fun hname => ?_⟩
    rw [hname]
    exact List.mem_cons_self
  refine .object (fun n hn => ⟨fun slot hslot hgoes => (hkey slot hslot n hn hgoes).2, ?_⟩) ?_ ?_ hu
  · intro hunknown
    obtain ⟨slot, hslot, hname, -⟩ := h.shows hns n hn
    exact absurd (hname ▸ List.mem_cons_self) (hunknown slot hslot)
  · intro slot hslot
    rw [htimes slot hslot]
    exact List.nodup_iff_count_le_one.mp ((h.keys_sublist hns).nodup plan.nodup_names) slot.name
  · intro slot hslot h0
    rw [htimes slot hslot, List.count_eq_zero] at h0
    exact h.default_of_notMem hns slot hslot h0

end ModuleDocs.Json

namespace ModuleDocs

open Json

/-! ### Comments -/

theorem Scope.admits (s : Scope) : (Form.record slots).Admits s.toValue s :=
  plan.admits (.optionalLast Form.text_admits)

theorem Context.admits (c : Context) : (Form.record slots).Admits c.toValue c :=
  plan.admits
    (.present (Form.choice_admits (.inl rfl))
      (.present (Form.text_admits c.name) (.optionalLast Scope.admits)))

theorem Tag.admits (t : Tag) : (Form.record slots).Admits t.toValue t :=
  plan.admits (.present (Form.text_admits t.key) (.present (Form.text_admits t.value) .nil))

theorem NativeTags.admits (t : NativeTags) : (Form.record slots).Admits t.toValue t :=
  plan.admits (.optionalLast Form.text_admits)

/-- **A comment is written in a form in which it is read.** -/
theorem Comment.admits (c : Comment) : (Form.record slots).Admits c.toValue c := by
  refine plan.admits ?_
  simp only [List.append_assoc]
  refine .optional Context.admits ?_
  refine .present (Form.list_admits Tag.admits c.tags) (.present c.nativeTags.admits ?_)
  refine .optional Form.flag_admits ?_
  refine .present (Form.flag_admits c.isConstructor) (.present (Form.text_admits c.description) ?_)
  refine .present (Form.text_admits c.code) (.present (Form.choice_admits (.inl rfl)) ?_)
  exact .optionalLast Form.text_admits

theorem Comment.listForm_admits (cs : List Comment) : listForm.Admits (listValue cs) cs :=
  Form.list_admits admits cs

/-! ### Documentation -/

/-- The fields of a dependency. -/
def Dependency.slots : List (Slot Dependency) :=
  [{ name := "name", default := none, get := (·.name), form := .text },
   { name := "description", default := some "", get := (·.description), form := .text }]

/-- The fields of a class. -/
def ClassDoc.slots : List (Slot ClassDoc) :=
  [{ name := "constructor", default := none, get := (·.constructor),
     form := .record Comment.slots },
   { name := "properties", default := none, get := (·.properties), form := Comment.listForm },
   { name := "methods", default := none, get := (·.methods), form := Comment.listForm }]

/-- The fields of a mixin. -/
def MixinDoc.slots : List (Slot MixinDoc) :=
  [{ name := "declaration", default := none, get := (·.declaration),
     form := .record Comment.slots },
   { name := "properties", default := none, get := (·.properties), form := Comment.listForm },
   { name := "methods", default := none, get := (·.methods), form := Comment.listForm }]

/-- The fields of a module's documentation. -/
def ModuleDoc.slots : List (Slot ModuleDoc) :=
  [{ name := "name", default := none, get := (·.name), form := .text },
   { name := "path", default := none, get := (·.path), form := .text },
   { name := "description", default := none, get := (·.description), form := .text },
   { name := "isDeprecated", default := none, get := (·.isDeprecated), form := .flag },
   { name := "deprecationMessage", default := some none, get := (·.deprecationMessage),
     form := .optional .text },
   { name := "variables", default := none, get := (·.vars), form := Comment.listForm },
   { name := "functions", default := none, get := (·.functions), form := Comment.listForm },
   { name := "classes", default := none, get := (·.classes),
     form := .list (.record ClassDoc.slots) },
   { name := "mixins", default := none, get := (·.mixins),
     form := .list (.record MixinDoc.slots) },
   { name := "dependencies", default := none, get := (·.dependencies),
     form := .list (.record Dependency.slots) }]

/-- How the slots of a dependency are read. -/
def Dependency.plan : Plan Dependency.schema Dependency.slots where
  cols := .cons reads_text (fun _ _ => rfl) (.cons reads_text (fun _ _ => rfl) .nil)
  distinct := by simp [Columns.toList]
  frame := by simp [Columns.toList]
  blank := by simp [Columns.toList, schema]
  ext := by
    rintro ⟨name, description⟩ ⟨name', description'⟩ h
    simpa [Columns.toList] using h

/-- How the slots of a class are read. -/
def ClassDoc.plan : Plan ClassDoc.schema ClassDoc.slots where
  cols := .cons Comment.plan.reads (fun _ _ => rfl)
    (.cons Comment.reads_listForm (fun _ _ => rfl)
      (.cons Comment.reads_listForm (fun _ _ => rfl) .nil))
  distinct := by simp [Columns.toList]
  frame := by simp [Columns.toList]
  blank := by simp [Columns.toList]
  ext := by
    rintro ⟨constructor, properties, methods⟩ ⟨constructor', properties', methods'⟩ h
    simpa [Columns.toList] using h

/-- How the slots of a mixin are read. -/
def MixinDoc.plan : Plan MixinDoc.schema MixinDoc.slots where
  cols := .cons Comment.plan.reads (fun _ _ => rfl)
    (.cons Comment.reads_listForm (fun _ _ => rfl)
      (.cons Comment.reads_listForm (fun _ _ => rfl) .nil))
  distinct := by simp [Columns.toList]
  frame := by simp [Columns.toList]
  blank := by simp [Columns.toList]
  ext := by
    rintro ⟨declaration, properties, methods⟩ ⟨declaration', properties', methods'⟩ h
    simpa [Columns.toList] using h

/-- How the slots of a module's documentation are read. -/
def ModuleDoc.plan : Plan ModuleDoc.schema ModuleDoc.slots where
  cols := .cons reads_text (fun _ _ => rfl)
    (.cons reads_text (fun _ _ => rfl)
      (.cons reads_text (fun _ _ => rfl)
        (.cons reads_flag (fun _ _ => rfl)
          (.cons (reads_text.optional notNull_text) (fun _ _ => rfl)
            (.cons Comment.reads_listForm (fun _ _ => rfl)
              (.cons Comment.reads_listForm (fun _ _ => rfl)
                (.cons ClassDoc.plan.reads.list (fun _ _ => rfl)
                  (.cons MixinDoc.plan.reads.list (fun _ _ => rfl)
                    (.cons Dependency.plan.reads.list (fun _ _ => rfl) .nil)))))))))
  distinct := by simp [Columns.toList]
  frame := by simp [Columns.toList]
  blank := by simp [Columns.toList, schema]
  ext := by
    rintro ⟨⟩ ⟨⟩ h
    simpa [Columns.toList] using h

/-- A dependency without a description is written without one. -/
theorem Dependency.admits (d : Dependency) : (Form.record slots).Admits d.toValue d := by
  refine plan.admits (.present (Form.text_admits d.name) ?_)
  by_cases hd : d.description.isEmpty = true
  · rw [if_pos hd]
    exact .absent (congrArg some (String.isEmpty_iff.mp hd).symm) .nil
  · rw [if_neg hd]
    exact .present (Form.text_admits d.description) .nil

theorem ClassDoc.admits (c : ClassDoc) : (Form.record slots).Admits c.toValue c :=
  plan.admits
    (.present c.constructor.admits
      (.present (Comment.listForm_admits c.properties)
        (.present (Comment.listForm_admits c.methods) .nil)))

theorem MixinDoc.admits (m : MixinDoc) : (Form.record slots).Admits m.toValue m :=
  plan.admits
    (.present m.declaration.admits
      (.present (Comment.listForm_admits m.properties)
        (.present (Comment.listForm_admits m.methods) .nil)))

/-- **So is a whole record.** -/
theorem ModuleDoc.admits (r : ModuleDoc) : (Form.record slots).Admits r.toValue r := by
  refine plan.admits ?_
  simp only [List.append_assoc]
  refine .present (Form.text_admits r.name) (.present (Form.text_admits r.path) ?_)
  refine .present (Form.text_admits r.description) (.present (Form.flag_admits r.isDeprecated) ?_)
  refine .optional Form.text_admits ?_
  refine .present (Comment.listForm_admits r.vars) ?_
  refine .present (Comment.listForm_admits r.functions) ?_
  refine .present (Form.list_admits ClassDoc.admits r.classes) ?_
  refine .present (Form.list_admits MixinDoc.admits r.mixins) ?_
  exact .present (Form.list_admits Dependency.admits r.dependencies) .nil

/-! ### Texts -/

/-- Comments are read back from every spelling of what is written for them. -/
theorem readComments_wholeText (path : String) {cs : List Comment} {text : String}
    (h : WholeText (Comment.listValue cs) text) : readComments path text = .ok cs :=
  Comment.readComments_presents path (h.mono (Comment.listForm_admits cs))

/-- **What is written is what is read.**  Documentation is read back from the text of its file, and
comments from their text as it is printed or spelled in any other way. -/
theorem json_roundTrip :
    (∀ r : ModuleDoc, ModuleDoc.parse (OutputFormat.json.print r.toValue) = .ok r) ∧
      (∀ (path : String) (cs : List Comment),
        readComments path (OutputFormat.json.print (Comment.listValue cs)) = .ok cs) ∧
      ∀ (path : String) (cs : List Comment) (text : String),
        WholeText (Comment.listValue cs) text → readComments path text = .ok cs := by
  refine ⟨fun r => ?_, fun path cs => ?_, fun path cs text h => readComments_wholeText path h⟩
  · exact readWhole_presents ModuleDoc.plan.reads ((print_wholeText r.toValue).mono r.admits)
  · exact readComments_wholeText path (print_wholeText (Comment.listValue cs))

/-- A comment in one line, with a quote, a control character and a character of four bytes. -/
theorem json_roundTrip_oneLine :
    let c : Comment :=
      { context := some { kind := .unknown, scope := some {} }, description := "\"\x01😀",
        kind := .other }
    let text := "[\x7b\"ctx\":\x7b\"type\":\"unknown\",\"name\":\"\",\"scope\":\x7b\x7d\x7d," ++
      "\"tags\":[],\"nativeTags\":\x7b\x7d,\"isConstructor\":false," ++
      "\"description\":\"\\\"\\u0001😀\",\"code\":\"\",\"kind\":\"other\"\x7d]\n"
    WholeText (Comment.listValue [c]) text ∧ readComments "m.js" text = .ok [c] := by
  intro c text
  have hctx : SpelledMembers true [("type", .text "unknown"), ("name", .text ""),
      ("scope", .object [])] _ :=
    .cons (.first .nil) .nil .nil (.text _) (.cons (.next .nil .nil) .nil .nil (.text _)
      (.cons (.next .nil .nil) .nil .nil (.object (.nil .nil)) (.nil .nil)))
  have hc : Spelled c.toValue _ :=
    .object (.cons (.first .nil) .nil .nil (.object hctx)
      (.cons (.next .nil .nil) .nil .nil (.list (.nil .nil))
      (.cons (.next .nil .nil) .nil .nil (.object (.nil .nil))
      (.cons (.next .nil .nil) .nil .nil .no
      (.cons (.next .nil .nil) .nil .nil (.text _)
      (.cons (.next .nil .nil) .nil .nil (.text _)
      (.cons (.next .nil .nil) .nil .nil (.text _) (.nil .nil))))))))
  have h : WholeText (Comment.listValue [c]) text :=
    ⟨[], _, newline 0, .nil, .list (.cons (.first .nil) hc (.nil .nil)), spaces_newline 0,
      by decide +kernel⟩
  exact ⟨h, json_roundTrip.2.2 "m.js" [c] text h⟩

end ModuleDocs
