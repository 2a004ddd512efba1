import ModuleDocs.Proofs.Blanks
import ModuleDocs.Proofs.Buckets
import Mathlib.Data.List.Induction

/-!
# Proofs — Placing entities

Two tags say where the entity of a comment belongs: `memberof` names its owner, `mixes` what it
mixes in.  A tag *gives* something if its text is not blank, and of the tags of one key the last one
that gives something counts.

* `lastGiven?`: what the tags of a key give.
* `Comment.applyTag_eq`, `Comment.foldl_applyTag`: what one tag does to a comment, and what a list
  of tags does: the two keys do not disturb each other.
* `Comment.bucket_resolve`: tags change where a draft takes a comment only through the owner.
* `resolve_exact`: all that tags do to a comment.
-/

namespace ModuleDocs

/-! ### What tags give -/

/-- The tag has the given key and a text that is not blank. -/
def Tag.gives (t : Tag) (key : String) : Bool := t.is key && !Text.allBlank t.value

/-- A tag has one key. -/
theorem Tag.is_unique {t : Tag} {key key' : String} (h : t.is key = true) (h' : t.is key' = true) :
    key = key' :=
  String.toList_inj.mp ((of_decide_eq_true h).symm.trans (of_decide_eq_true h'))

/-- What is given by the last tag that gives something for the key. -/
def lastGiven? (key : String) (ts : List Tag) : Option String :=
  (ts.filter (·.gives key)).getLast?.map (·.text)

section

variable {key : String} {ts : List Tag} {t : Tag}

/-- The newest tag of a key counts. -/
theorem lastGiven?_concat (key : String) (ts : List Tag) (t : Tag) :
    lastGiven? key (ts ++ [t]) = if t.gives key then some t.text else lastGiven? key ts := by
  rw [lastGiven?, List.filter_append]
  by_cases h : t.gives key = true
  · simp [h]
  · simp [h, lastGiven?]

/-- No tag counts exactly if none gives the key. -/
theorem lastGiven?_eq_none_iff : lastGiven? key ts = none ↔ ∀ t ∈ ts, ¬ t.gives key := by
  rw [lastGiven?, Option.map_eq_none_iff, List.getLast?_eq_none_iff, List.filter_eq_nil_iff]

/-- What stands behind the last tag that gives something for the key does not count. -/
theorem lastGiven?_of_last {before after : List Tag} (h : t.gives key = true)
    (hafter : ∀ u ∈ after, ¬ u.gives key) :
    lastGiven? key (before ++ t :: after) = some t.text := by
  have hnone : after.filter (·.gives key) = [] := List.filter_eq_nil_iff.mpr hafter
  have ht : (t :: after).filter (·.gives key) = [t] := by
    rw [List.filter_cons, if_pos h, hnone]
  rw [lastGiven?, List.filter_append, ht, List.getLast?_concat, Option.map_some]

end

/-! ### What tags do -/

namespace Comment

/-- The comment with an owner and a mix-in, where they are given. -/
def withPlace (c : Comment) (owner mixes : Option String) : Comment :=
  { c with
    context := owner.elim c.context fun o => c.context.map (·.withOwner o)
    mixesInto := mixes <|> c.mixesInto }

/-- **What one tag does.** -/
theorem applyTag_eq (c : Comment) (t : Tag) : c.applyTag t =
    c.withPlace (if t.gives "memberof" then some t.text else none)
      (if t.gives "mixes" then some t.text else none) := by
  have hblank : t.text.isEmpty = Text.allBlank t.value := Text.trim_isEmpty t.value
  have hkeys : ¬ (t.is "memberof" = true ∧ t.is "mixes" = true) := fun h =>
    absurd (Tag.is_unique h.1 h.2) (by decide)
  rw [applyTag, hblank, Tag.gives, Tag.gives]
  cases Text.allBlank t.value with
  | true => simp [withPlace]
  | false =>
      cases hm : t.is "memberof" with
      | true =>
          have hx : t.is "mixes" = false := Bool.eq_false_iff.mpr fun hx => hkeys ⟨hm, hx⟩
          simp [hx, withPlace]
      | false => cases t.is "mixes" <;> simp [withPlace]

/-- A place that is given replaces the one given before. -/
theorem withPlace_withPlace (c : Comment) (owner owner' mixes mixes' : Option String) :
    (c.withPlace owner mixes).withPlace owner' mixes' =
      c.withPlace (owner' <|> owner) (mixes' <|> mixes) := by
  unfold withPlace
  congr 1
  · cases owner' with
    | none => rfl
    | some o' =>
        cases owner with
        | none => rfl
        | some o => simp [Context.withOwner, Function.comp_def]
  · cases mixes' <;> rfl

/-- **What a list of tags does:** for each key what is given last. -/
theorem foldl_applyTag (ts : List Tag) (c : Comment) :
    ts.foldl applyTag c = c.withPlace (lastGiven? "memberof" ts) (lastGiven? "mixes" ts) := by
  induction ts using List.reverseRecOn with
  | nil => rfl
  | append_singleton ts t ih =>
      rw [List.foldl_concat, ih, applyTag_eq, withPlace_withPlace, lastGiven?_concat,
        lastGiven?_concat]
      congr 1
      · split <;> rfl
      · split <;> rfl

/-- Resolving a comment takes its place from its tags. -/
theorem resolve_eq (c : Comment) :
    c.resolve = c.withPlace (lastGiven? "memberof" c.tags) (lastGiven? "mixes" c.tags) :=
  foldl_applyTag c.tags c

/-- **Tags change the owner in the context and the mix-in,** and nothing else. -/
theorem resolve_frame (c : Comment) : ∃ scope mixesInto, c.resolve =
    { c with context := c.context.map ({ · with scope := scope }), mixesInto := mixesInto } := by
  rw [resolve_eq]
  cases ho : lastGiven? "memberof" c.tags with
  | some o => exact ⟨some { owner := some o }, _, rfl⟩
  | none =>
      refine ⟨c.context.bind (·.scope), (lastGiven? "mixes" c.tags <|> c.mixesInto), ?_⟩
      cases hc : c.context <;> simp [withPlace, hc]

end Comment

/-! ### Where a comment is taken -/

namespace Comment

theorem contextKind_resolve (c : Comment) : c.resolve.contextKind = c.contextKind := by
  obtain ⟨scope, mixesInto, h⟩ := c.resolve_frame
  rw [h, contextKind, contextKind, Option.map_map]
  rfl

theorem name_resolve (c : Comment) : c.resolve.name = c.name := by
  obtain ⟨scope, mixesInto, h⟩ := c.resolve_frame
  rw [h, name, name, Option.map_map]
  rfl

/-- Tags leave the part that a comment plays. -/
theorem role_resolve (c : Comment) : c.resolve.role = c.role := by
  obtain ⟨scope, mixesInto, h⟩ := c.resolve_frame
  have htags : c.resolve.tags = c.tags := by rw [h]
  have hconstructor : c.resolve.isConstructor = c.isConstructor := by rw [h]
  rw [role, role, contextKind_resolve, hasTag, hasTag, htags, hconstructor]

/-- Resolving a comment leaves whether it describes the module. -/
theorem describesModule_resolve (rules : Rules) (c : Comment) :
    rules.describesModule c.resolve = rules.describesModule c := by
  obtain ⟨scope, mixesInto, h⟩ := c.resolve_frame
  rw [h, Rules.describesModule, Rules.describesModule, Option.isNone_map]

/-- With one owner a comment is taken into one bucket, before its tags are read and after. -/
theorem bucket_resolve (rules : Rules) (d : Draft) (owner : Option String) (c : Comment) :
    d.bucket rules owner c.resolve = d.bucket rules owner c := by
  unfold Draft.bucket Draft.takesDescription
  rw [role_resolve, describesModule_resolve]

/-- **What tags do to a comment.**  They change at most the scope in its context and what it mixes
in.  With a context, the owner is the trimmed text of the last tag `memberof` that is not blank; if
there is none, or no context, the context stays.  What it mixes in is the trimmed text of the last
tag `mixes` that is not blank, and stays if there is none.  A draft takes the comment where it would
have taken it before, if it had had the owner that it has now.  Reading the tags again changes
nothing. -/
theorem resolve_exact (c : Comment) :
    (∃ scope mixesInto, c.resolve =
      { c with context := c.context.map ({ · with scope := scope }), mixesInto := mixesInto }) ∧
    (∀ context before t after, c.context = some context → c.tags = before ++ t :: after →
      t.gives "memberof" = true → (∀ u ∈ after, ¬ u.gives "memberof") →
      c.resolve.context = some { context with scope := some { owner := some (Text.trim t.value) } }
        ∧ c.resolve.owner = some (Text.trim t.value)) ∧
    (c.context = none ∨ (∀ t ∈ c.tags, ¬ t.gives "memberof") → c.resolve.context = c.context) ∧
    (∀ before t after, c.tags = before ++ t :: after → t.gives "mixes" = true →
      (∀ u ∈ after, ¬ u.gives "mixes") → c.resolve.mixesInto = some (Text.trim t.value)) ∧
    ((∀ t ∈ c.tags, ¬ t.gives "mixes") → c.resolve.mixesInto = c.mixesInto) ∧
    (c.resolve.name = c.name ∧ c.resolve.role = c.role) ∧
    (∀ (rules : Rules) (d : Draft), d.add rules c = d.fill rules c (d.bucket rules c.owner c) ∧
      d.add rules c.resolve = d.fill rules c.resolve (d.bucket rules c.resolve.owner c)) ∧
    c.resolve.resolve = c.resolve := by
  have hcontext : c.resolve.context = (lastGiven? "memberof" c.tags).elim c.context
      fun o => c.context.map (·.withOwner o) := by rw [resolve_eq]; rfl
  have hmixes : c.resolve.mixesInto = (lastGiven? "mixes" c.tags <|> c.mixesInto) := by
    rw [resolve_eq]; rfl
  refine ⟨c.resolve_frame, ?_, ?_, ?_, ?_, ⟨c.name_resolve, c.role_resolve⟩,
    fun rules d => ⟨?_, ?_⟩, ?_⟩
  · intro context before t after hc htags ht hafter
    have h : c.resolve.context =
        some { context with scope := some { owner := some (Text.trim t.value) } } := by
      rw [hcontext, htags, lastGiven?_of_last ht hafter, hc]
      rfl
    exact ⟨h, by rw [owner, h]; rfl⟩
  · rintro (hnone | hnone)
    · rw [hcontext, hnone]
      cases lastGiven? "memberof" c.tags <;> rfl
    · rw [hcontext, lastGiven?_eq_none_iff.mpr hnone]
      rfl
  · intro before t after htags ht hafter
    rw [hmixes, htags, lastGiven?_of_last ht hafter]
    rfl
  · intro hnone
    rw [hmixes, lastGiven?_eq_none_iff.mpr hnone]
    rfl
  · exact d.add_eq rules c
  · rw [d.add_eq rules c.resolve, bucket_resolve]
  · have htags : c.resolve.tags = c.tags := by
      rw [resolve_eq]; rfl
    rw [resolve_eq c.resolve, htags, resolve_eq c, withPlace_withPlace]
    congr 1
    · cases lastGiven? "memberof" c.tags <;> rfl
    · cases lastGiven? "mixes" c.tags <;> rfl

/-- Blank tags do not take back what was given before, and a key may have signs before it. -/
example :
    let c : Comment :=
      { context := some { kind := .method, name := "m" }
        tags := [⟨"memberof", "A"⟩, ⟨" @@memberof ", " B\n"⟩, ⟨"mixes", "E"⟩, ⟨"memberof", " "⟩] }
    c.resolve.owner = some "B" ∧ c.resolve.mixesInto = some "E" := by
  decide

end Comment

end ModuleDocs
