import ModuleDocs.Proofs.FileStems
import ModuleDocs.Proofs.Placing
import ModuleDocs.Proofs.Visible
import Mathlib.Logic.Function.Iterate

/-!
# Proofs — Built-in extensions

The three built-in extensions do not see each other.  `ignore-tag` looks at the tags of a comment
and changes whether it is private, `trim-descriptions` changes its description, and
`strip-extension` changes the name of the module.  The first two change nothing when they run again;
the last one takes away one file extension each time.  So all that matters about a list of their
names is whether it has the first two and how often it has the last.

* `settled`: what a list of names makes of a comment, in a fixed order.
* `applyComment_ofNames`, `applyModule_ofNames`: the hooks of a list, by what it has.
* `SameEffect`: the two lists have the same in this sense.
* `alike_iff`: exactly such lists give the same documentation for every module.
* `builtin_order_irrelevant`: neither the order of the names nor a repetition matters.
-/

namespace ModuleDocs

/-! ### One attempt after the other -/

section

variable {ε α β : Type} {f : α → Except ε β} {a : α} {l : List α} {b : β} {bs : List β} {e : ε}

theorem mapM_cons_eq_ok_iff : (a :: l).mapM f = .ok bs ↔
    ∃ b bs', f a = .ok b ∧ l.mapM f = .ok bs' ∧ bs = b :: bs' := by
  rw [List.mapM_cons]
  cases f a with
  | error e => simp [bind, Except.bind]
  | ok b =>
      cases l.mapM f with
      | error e => simp [bind, Except.bind]
      | ok bs' => simp [bind, Except.bind, pure, Except.pure, eq_comm]

/-- What has come out came of one of the attempts. -/
theorem exists_of_mapM_eq_ok (h : l.mapM f = .ok bs) (hb : b ∈ bs) : ∃ a ∈ l, f a = .ok b := by
  induction l generalizing bs with
  | nil =>
      cases h
      cases hb
  | cons a l ih =>
      obtain ⟨b', bs', hb', hbs', rfl⟩ := mapM_cons_eq_ok_iff.mp h
      rcases List.mem_cons.mp hb with rfl | hb
      · exact ⟨a, List.mem_cons_self, hb'⟩
      · obtain ⟨a', ha', h'⟩ := ih hbs' hb
        exact ⟨a', List.mem_cons_of_mem a ha', h'⟩

/-- A failure is that of one of the attempts. -/
theorem exists_of_mapM_eq_error (h : l.mapM f = .error e) : ∃ a ∈ l, f a = .error e := by
  induction l with
  | nil => cases h
  | cons a l ih =>
      rw [List.mapM_cons] at h
      cases ha : f a with
      | error e' =>
          rw [ha] at h
          cases h
          exact ⟨a, List.mem_cons_self, ha⟩
      | ok b =>
          cases hl : l.mapM f with
          | error e' =>
              rw [ha, hl] at h
              cases h
              obtain ⟨a', ha', h'⟩ := ih hl
              exact ⟨a', List.mem_cons_of_mem a ha', h'⟩
          | ok bs' =>
              rw [ha, hl] at h
              cases h

end

namespace Extension

variable {names names' : List String} {es es' : List Extension} {name : String} {e : Extension}

/-! ### Lists of names -/

/-- There is a built-in for each of the names. -/
theorem exists_builtin (h : name ∈ builtinNames) : ∃ e, builtin name = .ok e := by
  simp only [builtinNames, List.mem_cons, List.not_mem_nil, or_false] at h
  rcases h with rfl | rfl | rfl <;> exact ⟨_, rfl⟩

/-- The extension of a name is one of three. -/
theorem builtin_eq_ok (h : builtin name = .ok e) :
    (name = "ignore-tag" ∧ e = { name, onComment := some ignoreTag }) ∨
      (name = "strip-extension" ∧ e = { name, onModule := some stripExtension }) ∨
      (name = "trim-descriptions" ∧ e = { name, onComment := some trimDescription }) := by
  unfold builtin at h
  split at h
  case isTrue hn =>
    cases h
    exact .inl ⟨hn, rfl⟩
  case isFalse =>
    split at h
    case isTrue hn =>
      cases h
      exact .inr (.inl ⟨hn, rfl⟩)
    case isFalse =>
      split at h
      case isTrue hn =>
        cases h
        exact .inr (.inr ⟨hn, rfl⟩)
      case isFalse => cases h

/-- Names are looked up one by one. -/
theorem ofNames_cons_eq_ok_iff : ofNames (name :: names) = .ok es ↔
    ∃ e es', builtin name = .ok e ∧ ofNames names = .ok es' ∧ es = e :: es' :=
  mapM_cons_eq_ok_iff

/-- Known names give built-ins. -/
theorem exists_ofNames (h : ∀ name ∈ names, name ∈ builtinNames) :
    ∃ es, ofNames names = .ok es := by
  induction names with
  | nil => exact ⟨[], rfl⟩
  | cons name names ih =>
      obtain ⟨hname, hnames⟩ := List.forall_mem_cons.mp h
      obtain ⟨e, he⟩ := exists_builtin hname
      obtain ⟨es, hes⟩ := ih hnames
      exact ⟨e :: es, ofNames_cons_eq_ok_iff.mpr ⟨e, es, he, hes, rfl⟩⟩

/-! ### Hooks on comments -/

/-- Ignoring what is ignored changes nothing. -/
theorem ignoreTag_ignoreTag (c : Comment) : ignoreTag (ignoreTag c) = ignoreTag c := by
  unfold ignoreTag
  split <;> simp_all

/-- Trimming what is trimmed changes nothing. -/
theorem trimDescription_trimDescription (c : Comment) :
    trimDescription (trimDescription c) = trimDescription c := by
  simp [trimDescription]

/-- Neither hook changes what the other one reads. -/
theorem ignoreTag_trimDescription (c : Comment) :
    ignoreTag (trimDescription c) = trimDescription (ignoreTag c) := by
  have htag : (trimDescription c).hasTag "ignore" = c.hasTag "ignore" := rfl
  unfold ignoreTag
  rw [htag]
  split <;> rfl

/-- What the extensions of the names make of a comment. -/
def settled (names : List String) (c : Comment) : Comment :=
  let ignored := if "ignore-tag" ∈ names then ignoreTag c else c
  if "trim-descriptions" ∈ names then trimDescription ignored else ignored

/-- **The hooks of a list on a comment.** -/
theorem applyComment_ofNames (h : ofNames names = .ok es) (c : Comment) :
    applyComment es c = settled names c := by
  induction names generalizing es c with
  | nil =>
      cases h
      rfl
  | cons name names ih =>
      obtain ⟨e, es', he, hes, rfl⟩ := ofNames_cons_eq_ok_iff.mp h
      rcases builtin_eq_ok he with ⟨rfl, rfl⟩ | ⟨rfl, rfl⟩ | ⟨rfl, rfl⟩
      · show applyComment es' (ignoreTag c) = _
        rw [ih hes]
        by_cases hi : "ignore-tag" ∈ names
        · simp [settled, hi, ignoreTag_ignoreTag]
        · simp [settled, hi]
      · show applyComment es' c = _
        rw [ih hes]
        simp [settled]
      · show applyComment es' (trimDescription c) = _
        rw [ih hes]
        by_cases ht : "trim-descriptions" ∈ names
        · by_cases hi : "ignore-tag" ∈ names
          · simp [settled, hi, ht, ignoreTag_trimDescription, trimDescription_trimDescription]
          · simp [settled, hi, ht, trimDescription_trimDescription]
        · by_cases hi : "ignore-tag" ∈ names
          · simp [settled, hi, ht, ignoreTag_trimDescription]
          · simp [settled, hi, ht]

/-! ### Hooks on modules -/

/-- **The hooks of a list on a module.** -/
theorem applyModule_ofNames (h : ofNames names = .ok es) (r : ModuleDoc) :
    applyModule es r = stripExtension^[names.count "strip-extension"] r := by
  induction names generalizing es r with
  | nil =>
      cases h
      rfl
  | cons name names ih =>
      obtain ⟨e, es', he, hes, rfl⟩ := ofNames_cons_eq_ok_iff.mp h
      rcases builtin_eq_ok he with ⟨rfl, rfl⟩ | ⟨rfl, rfl⟩ | ⟨rfl, rfl⟩
      · show applyModule es' r = _
        rw [ih hes, List.count_cons_of_ne (by decide)]
      · show applyModule es' (stripExtension r) = _
        rw [ih hes, List.count_cons_self, Function.iterate_succ_apply]
      · show applyModule es' r = _
        rw [ih hes, List.count_cons_of_ne (by decide)]

/-- Stripping several times strips the name several times. -/
theorem iterate_stripExtension (n : Nat) (r : ModuleDoc) :
    stripExtension^[n] r = { r with name := stem^[n] r.name } := by
  induction n generalizing r with
  | zero => rfl
  | succ n ih =>
      rw [Function.iterate_succ_apply, ih, Function.iterate_succ_apply]
      rfl

/-- A name with so many file extensions. -/
def dotted : Nat → String
  | 0 => "a"
  | n + 1 => dotted n ++ "." ++ "b"

theorem length_dotted (n : Nat) : (dotted n).length = 1 + 2 * n := by
  induction n with
  | zero => rfl
  | succ n ih =>
      simp only [dotted, String.length_append, ih]
      show 1 + 2 * n + 1 + 1 = _
      omega

/-- Each time the name loses one file extension. -/
theorem iterate_stem_dotted (m n : Nat) : stem^[m] (dotted (n + m)) = dotted n := by
  induction m with
  | zero => rfl
  | succ m ih =>
      have hne : dotted (n + m) ≠ "" := by
        intro he
        have hlength := length_dotted (n + m)
        rw [he] at hlength
        exact absurd hlength (by simp; omega)
      have hstem : stem (dotted (n + (m + 1))) = dotted (n + m) := by
        show stem (dotted (n + m) ++ "." ++ "b") = _
        rw [stem_lastDot (by decide), if_neg (not_or.mpr ⟨hne, by decide⟩)]
      rw [Function.iterate_succ_apply, hstem, ih]

/-! ### Documentation -/

/-- The two lists have the same of what matters. -/
structure SameEffect (names names' : List String) : Prop where
  ignore : "ignore-tag" ∈ names ↔ "ignore-tag" ∈ names'
  trim : "trim-descriptions" ∈ names ↔ "trim-descriptions" ∈ names'
  strip : names.count "strip-extension" = names'.count "strip-extension"

/-- Every module is documented alike with either list of extensions, whatever its comments are and
however it is documented. -/
def Alike (es es' : List Extension) : Prop :=
  ∀ (a : Assembler) (module : Identity) (comments : List Comment),
    { a with extensions := es }.assemble module comments =
      { a with extensions := es' }.assemble module comments

theorem SameEffect.settled_eq (h : SameEffect names names') : settled names = settled names' := by
  funext c
  simp only [settled, h.ignore, h.trim]

/-- Lists of the same effect document every module alike. -/
theorem SameEffect.alike (hs : SameEffect names names') (h : ofNames names = .ok es)
    (h' : ofNames names' = .ok es') : Alike es es' := by
  intro a module comments
  have hseed : { a with extensions := es }.seed module =
      { a with extensions := es' }.seed module := by
    simp only [Assembler.seed, applyModule_ofNames h, applyModule_ofNames h', hs.strip]
  have hprepare : { a with extensions := es }.prepare = { a with extensions := es' }.prepare := by
    funext c
    simp only [Assembler.prepare, applyComment_ofNames h, applyComment_ofNames h', hs.settled_eq]
  simp only [Assembler.assemble, Assembler.draft, Assembler.start, hseed, hprepare]
  rfl

/-- A module without comments shows what has become of its name. -/
theorem name_assemble_nil (h : ofNames names = .ok es) (a : Assembler) (module : Identity) :
    ({ a with extensions := es }.assemble module []).name =
      stem^[names.count "strip-extension"] module.name := by
  have hseed : ({ a with extensions := es }.seed module).name =
      stem^[names.count "strip-extension"] module.name := by
    rw [Assembler.seed, applyModule_ofNames h, iterate_stripExtension]
  rw [← hseed]
  unfold Assembler.assemble Assembler.draft Assembler.start
  cases a.resolution <;> rfl

theorem documentsFunction_settled (names : List String) (c : Comment) :
    (settled names c).documentsFunction = c.documentsFunction := by
  have hignore : (ignoreTag c).documentsFunction = c.documentsFunction := by
    unfold ignoreTag
    split <;> rfl
  have htrim (c : Comment) : (trimDescription c).documentsFunction = c.documentsFunction := rfl
  unfold settled
  dsimp only
  split <;> split <;> simp only [hignore, htrim]

/-- A module with one function shows what has become of its comment. -/
theorem functions_assemble (h : ofNames names = .ok es) (a : Assembler) (module : Identity)
    {c : Comment} (hc : c.documentsFunction = true) :
    ({ a with extensions := es }.assemble module [c]).functions =
      [(settled names c).resolve].filter (·.isPublic) := by
  have hseed : ({ a with extensions := es }.seed module).functions = [] := by
    rw [Assembler.seed, applyModule_ofNames h, iterate_stripExtension]
  have hprepare : { a with extensions := es }.prepare c = (settled names c).resolve := by
    rw [Assembler.prepare, applyComment_ofNames h]
  have hdoc : (settled names c).resolve.documentsFunction = true := by
    rw [Comment.documentsFunction_eq, Comment.role_resolve, ← Comment.documentsFunction_eq,
      documentsFunction_settled, hc]
  have hdraft := ({ a with extensions := es }.draft_collected module [c]).2
  rw [hseed, List.map_singleton, hprepare, List.filter_cons_of_pos hdoc, List.filter_nil,
    List.nil_append] at hdraft
  show (sortByName ({ a with extensions := es }.draft module [c]).header.functions).filter _ = _
  rw [hdraft, sortByName, List.mergeSort_singleton]

/-- A public function that is to be ignored. -/
def hidden : Comment where
  context := some { kind := .function }
  tags := [{ key := "ignore" }]
  isPrivate := some false

/-- A public function with nothing but a blank for a description. -/
def padded : Comment where
  context := some { kind := .function }
  description := " "
  isPrivate := some false

theorem isPublic_settled_hidden (names : List String) :
    (settled names hidden).resolve.isPublic = decide ("ignore-tag" ∉ names) := by
  by_cases hi : "ignore-tag" ∈ names <;> by_cases ht : "trim-descriptions" ∈ names <;>
    simp only [settled, hi, ht, if_true, if_false] <;> decide

/-- Trimming is seen on a description of blanks. -/
theorem settled_padded (names : List String) : (settled names padded).resolve =
    { padded with description := if "trim-descriptions" ∈ names then "" else " " } := by
  by_cases hi : "ignore-tag" ∈ names <;> by_cases ht : "trim-descriptions" ∈ names <;>
    simp only [settled, hi, ht, if_true, if_false] <;> decide

/-- **Exactly the lists with the same of what matters give the same documentation.**  A function
that is to be ignored, one with a blank description and a name with many file extensions tell any
two others apart. -/
theorem alike_iff (h : ofNames names = .ok es) (h' : ofNames names' = .ok es') :
    Alike es es' ↔ SameEffect names names' := by
  refine ⟨fun ha => ?_, fun hs => hs.alike h h'⟩
  let plain : Assembler := { render := id }
  have hhidden := congrArg ModuleDoc.functions (ha plain ⟨"m", "m"⟩ [hidden])
  have hpadded := congrArg ModuleDoc.functions (ha plain ⟨"m", "m"⟩ [padded])
  have hname := congrArg ModuleDoc.name (ha plain
    ⟨dotted (names.count "strip-extension" + names'.count "strip-extension"), "m"⟩ [])
  rw [functions_assemble h plain _ rfl, functions_assemble h' plain _ rfl] at hhidden hpadded
  rw [name_assemble_nil h, name_assemble_nil h', iterate_stem_dotted, Nat.add_comm,
    iterate_stem_dotted] at hname
  refine ⟨?_, ?_, ?_⟩
  · have hlength := congrArg List.length hhidden
    simp only [List.filter_cons, isPublic_settled_hidden] at hlength
    by_cases hi : "ignore-tag" ∈ names <;> by_cases hi' : "ignore-tag" ∈ names' <;>
      simp [hi, hi'] at hlength ⊢
  · rw [settled_padded, settled_padded] at hpadded
    by_cases ht : "trim-descriptions" ∈ names <;> by_cases ht' : "trim-descriptions" ∈ names' <;>
      simp [ht, ht', padded, Comment.isPublic] at hpadded ⊢
  · have hlength := congrArg String.length hname
    rw [length_dotted, length_dotted] at hlength
    omega

/-- **The order of built-in extensions does not matter.**  Any list of their names can be set up.
A list in another order gives the same documentation for every module, and so does one that lacks
repeated `ignore-tag` and `trim-descriptions`.  In general two lists do so exactly if they agree on
whether they have these two and on how often they have `strip-extension`. -/
theorem builtin_order_irrelevant (h : ∀ name ∈ names, name ∈ builtinNames) :
    ∃ es, ofNames names = .ok es ∧
      (∀ names', names'.Perm names → ∃ es', ofNames names' = .ok es' ∧ Alike es es') ∧
      (∀ names', names'.Sublist names → (∀ name ∈ names, name ∈ names') →
        names'.count "strip-extension" = names.count "strip-extension" →
        ∃ es', ofNames names' = .ok es' ∧ Alike es es') ∧
      ∀ names' es', ofNames names' = .ok es' → (Alike es es' ↔ SameEffect names names') := by
  obtain ⟨es, hes⟩ := exists_ofNames h
  -- a list of the same names can be set up too
  have alike_of {names' : List String} (hsub : names' ⊆ names) (hs : SameEffect names names') :
      ∃ es', ofNames names' = .ok es' ∧ Alike es es' := by
    obtain ⟨es', hes'⟩ := exists_ofNames fun name hn => h name (hsub hn)
    exact ⟨es', hes', hs.alike hes hes'⟩
  refine ⟨es, hes, fun names' hp => ?_, fun names' hsub hmem hcount => ?_,
    fun names' es' hes' => alike_iff hes hes'⟩
  · exact alike_of hp.subset ⟨hp.mem_iff.symm, hp.mem_iff.symm, (hp.count_eq _).symm⟩
  · exact alike_of hsub.subset
      ⟨⟨hmem _, fun hn => hsub.subset hn⟩, ⟨hmem _, fun hn => hsub.subset hn⟩, hcount.symm⟩

/-- All three extensions, one of them twice, in the other order and once each; `strip-extension` is
not to be repeated. -/
theorem builtin_order_irrelevant_twice :
    let names := ["trim-descriptions", "strip-extension", "ignore-tag", "trim-descriptions"]
    (∀ name ∈ names, name ∈ builtinNames) ∧
    ∃ es, ofNames names = .ok es ∧
      (∃ es', ofNames ["ignore-tag", "trim-descriptions", "trim-descriptions", "strip-extension"] =
        .ok es' ∧ Alike es es') ∧
      (∃ es', ofNames ["strip-extension", "ignore-tag", "trim-descriptions"] = .ok es' ∧
        Alike es es') ∧
      ∀ es', ofNames ("strip-extension" :: names) = .ok es' → ¬ Alike es es' := by
  intro names
  have hnames : ∀ name ∈ names, name ∈ builtinNames := by decide
  obtain ⟨es, hes, hperm, hsub, hiff⟩ := builtin_order_irrelevant hnames
  refine ⟨hnames, es, hes, hperm _ (by decide), hsub _ (by decide) (by decide) (by decide), ?_⟩
  intro es' hes' ha
  exact absurd ((hiff _ es' hes').mp ha).strip (by decide)

end Extension

end ModuleDocs
