import ModuleDocs.Comment.Json
import ModuleDocs.Proofs.Forms
import Mathlib.Data.List.Pairwise

/-!
# Proofs — Reading records

A record is read from every text that presents it, and a field that an object mentions again is
reported.

* `Column σ`: a slot with the reader of its form and the way its value is put into the record.
* `Plan schema slots`: what a schema owes to the slots for its reader to read the form of the
  record.
* `Column.seen`: how often a field has been and will be mentioned, which stays the same along the
  members; `Plan.Holds`: what the record has got so far.
* `readMembers_presents`, `readMembers_repeats`: the reader along the members of an object, and
  `readPositions_presents`, `readPositions_repeats` along the elements of a list.
* `Plan.reads`: the reader of the schema reads the form of the record.
-/

namespace ModuleDocs.Json

variable {σ : Type}

/-! ### Plans -/

/-- A slot with the reader of its form and the way its value is put into the record. -/
structure Column (σ : Type) extends Slot σ where
  read : Reader α
  put : α → σ → σ
  reads : ReadsForm read form
  get_put : ∀ a r, get (put a r) = a

/-- The column as a field of a schema. -/
def Column.field (c : Column σ) : Field σ :=
  Json.field c.name c.read c.put c.aliases c.default.isNone

/-- Slots that make columns of the fields. -/
inductive Columns : List (Slot σ) → List (Field σ) → Type 1 where
  | nil : Columns [] []
  | cons {slot : Slot σ} {read : Reader slot.α} {put : slot.α → σ → σ} {slots : List (Slot σ)}
      {fs : List (Field σ)} : ReadsForm read slot.form → (∀ a r, slot.get (put a r) = a) →
      Columns slots fs →
      Columns (slot :: slots)
        (field slot.name read put slot.aliases slot.default.isNone :: fs)

namespace Columns

/-- The columns, one after the other. -/
def toList {slots : List (Slot σ)} {fs : List (Field σ)} : Columns slots fs → List (Column σ)
  | nil => []
  | @cons _ slot read put _ _ reads get_put cs => ⟨slot, read, put, reads, get_put⟩ :: cs.toList

/-- The columns are the slots, in order. -/
theorem map_toSlot {slots : List (Slot σ)} {fs : List (Field σ)} :
    ∀ cs : Columns slots fs, cs.toList.map (·.toSlot) = slots
  | nil => rfl
  | cons _ _ cs => congrArg _ cs.map_toSlot

/-- The columns are the fields, in order. -/
theorem map_field {slots : List (Slot σ)} {fs : List (Field σ)} :
    ∀ cs : Columns slots fs, cs.toList.map (·.field) = fs
  | nil => rfl
  | cons _ _ cs => congrArg _ cs.map_field

end Columns

/-- The schema has the slots for its fields. -/
structure Plan (schema : Schema σ) (slots : List (Slot σ)) where
  cols : Columns slots schema.fields
  /-- No two fields have a name in common. -/
  distinct : cols.toList.Pairwise fun c d => (c.name :: c.aliases).Disjoint (d.name :: d.aliases)
  /-- Putting a value into one field changes no other. -/
  frame : ∀ c ∈ cols.toList, ∀ d ∈ cols.toList, c.name ≠ d.name →
    ∀ a r, d.get (c.put a r) = d.get r
  blank : ∀ c ∈ cols.toList, ∀ a, c.default = some a → c.get schema.blank = a
  /-- A record is what its fields are. -/
  ext : ∀ r r', (∀ c ∈ cols.toList, c.get r = c.get r') → r = r'

/-- How often the field is mentioned by what has been read and by the members to come. -/
def Column.seen (c : Column σ) (read : List String) (ms : List (String × Input)) : Nat :=
  (if c.name ∈ read then 1 else 0) + c.times ms

theorem Column.seen_nil (c : Column σ) (ms : List (String × Input)) :
    c.seen [] ms = c.times ms := by
  rw [Column.seen, if_neg List.not_mem_nil, Nat.zero_add]

namespace Plan

variable {schema : Schema σ} {slots : List (Slot σ)} (plan : Plan schema slots)

/-- The columns of the plan. -/
def columns : List (Column σ) := plan.cols.toList

theorem slots_eq : slots = plan.columns.map (·.toSlot) := plan.cols.map_toSlot.symm

theorem fields_eq : schema.fields = plan.columns.map (·.field) := plan.cols.map_field.symm

/-- A key is the name of one field at most. -/
theorem eq_of_goesBy {c d : Column σ} (hc : c ∈ plan.columns) (hd : d ∈ plan.columns) {key : String}
    (hck : c.GoesBy key) (hdk : d.GoesBy key) : c = d := by
  by_contra hne
  have : Std.Symm fun c d : Column σ => (c.name :: c.aliases).Disjoint (d.name :: d.aliases) :=
    ⟨fun _ _ h _ hd hc => h hc hd⟩
  exact plan.distinct.forall hc hd hne hck hdk

/-- A column is known by its name. -/
theorem eq_of_name {c d : Column σ} (hc : c ∈ plan.columns) (hd : d ∈ plan.columns)
    (h : c.name = d.name) : c = d := by
  have hdk : d.GoesBy c.name := h ▸ List.mem_cons_self
  exact plan.eq_of_goesBy hc hd List.mem_cons_self hdk

theorem forall_slots {P : Slot σ → Prop} :
    (∀ slot ∈ slots, P slot) ↔ ∀ c ∈ plan.columns, P c.toSlot := by
  have hmap : (∀ slot ∈ plan.columns.map (·.toSlot), P slot) ↔ ∀ c ∈ plan.columns, P c.toSlot :=
    List.forall_mem_map
  rw [← hmap, ← plan.slots_eq]

theorem exists_slots {P : Slot σ → Prop} :
    (∃ slot ∈ slots, P slot) ↔ ∃ c ∈ plan.columns, P c.toSlot := by
  have hmap : (∃ slot ∈ plan.columns.map (·.toSlot), P slot) ↔ ∃ c ∈ plan.columns, P c.toSlot := by
    simp only [List.mem_map, exists_exists_and_eq_and]
  rw [← hmap, ← plan.slots_eq]

include plan in
/-- A key is the name of one slot at most. -/
theorem slot_unique {slot slot' : Slot σ} (h : slot ∈ slots) (h' : slot' ∈ slots) {key : String}
    (hkey : slot.GoesBy key) (hkey' : slot'.GoesBy key) : slot = slot' := by
  rw [plan.slots_eq, List.mem_map] at h h'
  obtain ⟨c, hc, rfl⟩ := h
  obtain ⟨d, hd, rfl⟩ := h'
  rw [plan.eq_of_goesBy hc hd hkey hkey']

include plan in
/-- No two slots have the same name. -/
theorem nodup_names : (slots.map (·.name)).Nodup := by
  rw [plan.slots_eq, List.map_map]
  refine List.Pairwise.map _ (fun c d hcd hname => ?_) plan.distinct
  exact hcd List.mem_cons_self (by rw [show c.name = d.name from hname]; exact List.mem_cons_self)

theorem goesBy_iff {c : Column σ} {key : String} :
    (decide (c.field.name = key) || c.field.aliases.contains key) = true ↔ c.GoesBy key := by
  rw [Bool.or_eq_true, decide_eq_true_iff, List.contains_iff_mem, Slot.GoesBy, List.mem_cons]
  exact or_congr_left eq_comm

/-- A field is found under every key that its column goes by. -/
theorem field?_of_goesBy {c : Column σ} (hc : c ∈ plan.columns) {key : String}
    (hkey : c.GoesBy key) : schema.field? key = some c.field := by
  rw [Schema.field?, plan.fields_eq, List.find?_map]
  cases hfind : plan.columns.find? (_ ∘ _) with
  | none => exact absurd (goesBy_iff.mpr hkey) (List.find?_eq_none.mp hfind c hc)
  | some d =>
      have hp := List.find?_some hfind
      have hd : d.GoesBy key := goesBy_iff.mp hp
      rw [plan.eq_of_goesBy (List.mem_of_find?_eq_some hfind) hc hd hkey]
      rfl

/-- A key that no column goes by belongs to no field. -/
theorem field?_eq_none {key : String} (h : ∀ c ∈ plan.columns, ¬ c.GoesBy key) :
    schema.field? key = none := by
  rw [Schema.field?, plan.fields_eq, List.find?_map, Option.map_eq_none_iff, List.find?_eq_none]
  intro c hc hkey
  exact h c hc (goesBy_iff.mp hkey)

/-! ### Counting mentions -/

/-- A field that is marked as read counts as much as the member that it was read from. -/
theorem seen_known {c d : Column σ} (hc : c ∈ plan.columns) (hd : d ∈ plan.columns) {key : String}
    (hkey : c.GoesBy key) {read : List String} (hread : c.name ∉ read) (t : Input)
    (ms : List (String × Input)) :
    d.seen (c.name :: read) ms = d.seen read ((key, t) :: ms) := by
  rw [Column.seen, Column.seen, Slot.times, Slot.times, List.countP_cons]
  by_cases hname : d.name = c.name
  · obtain rfl := plan.eq_of_name hd hc hname
    simp only [List.mem_cons, true_or, if_true, if_neg hread, decide_eq_true_iff, if_pos hkey]
    omega
  · have hdk : ¬ d.GoesBy key := fun h =>
      hname (congrArg (fun c : Column σ => c.name) (plan.eq_of_goesBy hd hc h hkey))
    simp only [List.mem_cons, hname, false_or, decide_eq_true_iff, if_neg hdk, Nat.add_zero]

/-- A member of another key does not count. -/
theorem seen_unknown {d : Column σ} {key : String} (hd : ¬ d.GoesBy key) (read : List String)
    (t : Input) (ms : List (String × Input)) : d.seen read ((key, t) :: ms) = d.seen read ms := by
  rw [Column.seen, Column.seen, Slot.times, Slot.times,
    List.countP_cons_of_neg (by simpa using hd)]

/-- A field that has been read is mentioned again by a member that goes by one of its names. -/
theorem two_le_seen {c : Column σ} {key : String} (hkey : c.GoesBy key) {read : List String}
    (hread : c.name ∈ read) (t : Input) (ms : List (String × Input)) :
    2 ≤ c.seen read ((key, t) :: ms) := by
  rw [Column.seen, if_pos hread, Slot.times, List.countP_cons_of_pos (by simpa using hkey)]
  omega

/-! ### One member -/

section

variable {fuel : Nat} {first : Bool} {record : σ} {read : List String} {key : String}
  {w k w₁ w₂ t s : Input}

/-- One member of a known key. -/
theorem readMembers_some (hg : Gap first w) (hk : StringText key k) (hw₁ : Spaces w₁) {f : Field σ}
    (hf : schema.field? key = some f) :
    readMembers schema (fuel + 1) first record read (w ++ (k ++ (w₁ ++ ':' :: (w₂ ++ (t ++ s))))) =
      if read.contains f.name then .error (.duplicateField f.name)
      else f.read (w₂ ++ (t ++ s)) >>= fun p =>
        readMembers schema fuel false (p.1 record) (f.name :: read) p.2 := by
  obtain ⟨u, hu, rfl⟩ := hk
  rw [List.cons_append, List.append_assoc, List.singleton_append]
  simp only [readMembers, memberStart_quote hg, readString_chars hu, colon_colon hw₁, hf, bind,
    Except.bind]

/-- One member of an unknown key. -/
theorem readMembers_none (hg : Gap first w) (hk : StringText key k) (hw₁ : Spaces w₁)
    (hf : schema.field? key = none) :
    readMembers schema (fuel + 1) first record read (w ++ (k ++ (w₁ ++ ':' :: (w₂ ++ (t ++ s))))) =
      skipValue (w₂ ++ (t ++ s)) >>= readMembers schema fuel false record read := by
  obtain ⟨u, hu, rfl⟩ := hk
  rw [List.cons_append, List.append_assoc, List.singleton_append]
  simp only [readMembers, memberStart_quote hg, readString_chars hu, colon_colon hw₁, hf, bind,
    Except.bind]

variable {c : Column σ}

/-- **A field that comes a second time is refused,** before its value is read. -/
theorem readMembers_again (hc : c ∈ plan.columns) (hkey : c.GoesBy key) (hread : c.name ∈ read)
    (hg : Gap first w) (hk : StringText key k) (hw₁ : Spaces w₁) :
    readMembers schema (fuel + 1) first record read (w ++ (k ++ (w₁ ++ ':' :: (w₂ ++ (t ++ s))))) =
      .error (.duplicateField c.name) := by
  rw [readMembers_some hg hk hw₁ (plan.field?_of_goesBy hc hkey)]
  simp [Column.field, Json.field, hread]

/-- A member of a known key fills its field. -/
theorem readMembers_known (hc : c ∈ plan.columns) (hkey : c.GoesBy key) (hread : c.name ∉ read)
    (hg : Gap first w) (hk : StringText key k) (hw₁ : Spaces w₁) (hw₂ : Spaces w₂) {a : c.α}
    (ha : c.form.presents a t) :
    readMembers schema (fuel + 1) first record read (w ++ (k ++ (w₁ ++ ':' :: (w₂ ++ (t ++ s))))) =
      readMembers schema fuel false (c.put a record) (c.name :: read) s := by
  have hv : c.read (w₂ ++ (t ++ s)) = .ok (a, s) :=
    c.reads.value ha (by
      rw [skipSpace_append hw₂, (c.reads.opens (.inl ⟨a, ha⟩)).skipSpace_append])
  rw [readMembers_some hg hk hw₁ (plan.field?_of_goesBy hc hkey)]
  simp [Column.field, Json.field, hread, hv, bind, Except.bind]

/-- A value that repeats a field of its own is refused. -/
theorem readMembers_inner (hc : c ∈ plan.columns) (hkey : c.GoesBy key) (hread : c.name ∉ read)
    (hg : Gap first w) (hk : StringText key k) (hw₁ : Spaces w₁) (hw₂ : Spaces w₂) {name : String}
    (ht : c.form.repeats name t) :
    ∃ n, c.form.repeats n t ∧ readMembers schema (fuel + 1) first record read
      (w ++ (k ++ (w₁ ++ ':' :: (w₂ ++ (t ++ s))))) = .error (.duplicateField n) := by
  have hskip : skipSpace (w₂ ++ (t ++ s)) = t ++ s := by
    rw [skipSpace_append hw₂, (c.reads.opens (.inr ⟨name, ht⟩)).skipSpace_append]
  obtain ⟨n, hn, hv⟩ := c.reads.again ht hskip
  refine ⟨n, hn, ?_⟩
  rw [readMembers_some hg hk hw₁ (plan.field?_of_goesBy hc hkey)]
  simp [Column.field, Json.field, hread, hv, bind, Except.bind]

/-- A member of an unknown key is passed over. -/
theorem readMembers_unknown (hkey : ∀ c ∈ plan.columns, ¬ c.GoesBy key) (hg : Gap first w)
    (hk : StringText key k) (hw₁ : Spaces w₁) (hw₂ : Spaces w₂) (ht : IsValue t)
    (hs : Delimited s) :
    readMembers schema (fuel + 1) first record read (w ++ (k ++ (w₁ ++ ':' :: (w₂ ++ (t ++ s))))) =
      readMembers schema fuel false record read s := by
  have hv : skipValue (w₂ ++ (t ++ s)) = .ok s :=
    skipValue_isValue ht hs (by rw [skipSpace_append hw₂, ht.opens.skipSpace_append])
  rw [readMembers_none hg hk hw₁ (plan.field?_eq_none hkey)]
  simp only [hv, bind, Except.bind]

end

/-! ### Objects -/

/-- The record has got the values that `r` has in the fields that have been read. -/
def Holds (r : σ) (read : List String) (record : σ) : Prop :=
  ∀ c ∈ plan.columns, c.get record = if c.name ∈ read then c.get r else c.get schema.blank

theorem holds_blank (r : σ) : plan.Holds r [] schema.blank := by
  intro c _
  rw [if_neg List.not_mem_nil]

variable {plan}

/-- Filling one more field keeps what the record holds. -/
theorem Holds.put {r record : σ} {read : List String} (h : plan.Holds r read record)
    {c : Column σ} (hc : c ∈ plan.columns) :
    plan.Holds r (c.name :: read) (c.put (c.get r) record) := by
  intro d hd
  by_cases hname : d.name = c.name
  · obtain rfl := plan.eq_of_name hd hc hname
    rw [if_pos List.mem_cons_self, d.get_put]
  · rw [plan.frame c hc d hd (Ne.symm hname), h d hd]
    simp only [List.mem_cons, hname, false_or]

/-- The fields that have not been read have their defaults. -/
theorem Holds.eq {r record : σ} {read : List String} (h : plan.Holds r read record)
    (hdef : ∀ c ∈ plan.columns, c.name ∉ read → c.default = some (c.get r)) : record = r := by
  refine plan.ext record r ?_
  intro c hc
  rw [h c hc]
  split_ifs with hread
  · rfl
  · exact plan.blank c hc _ (hdef c hc hread)

/-- No field is missing if each is read or has a default. -/
theorem missing?_eq_none {read : List String}
    (h : ∀ c ∈ plan.columns, c.name ∉ read → c.default.isSome = true) :
    schema.missing? read = none := by
  rw [Schema.missing?, plan.fields_eq, List.find?_eq_none, List.forall_mem_map]
  intro c hc hmiss
  simp only [Column.field, Json.field, Bool.and_eq_true, Bool.not_eq_true', List.contains_eq_mem,
    decide_eq_false_iff_not, Option.isNone_iff_eq_none] at hmiss
  have hsome := h c hc hmiss.2
  simp [hmiss.1] at hsome

/-- The members are read one after the other, up to the blanks before the end of the object. -/
theorem readMembers_presents {r : σ} {first : Bool} {ms : List (String × Input)} {u : Input}
    (hu : Members StringText first ms u)
    (hms : ∀ m ∈ ms, Fits slots (fun slot => slot.form.presents (slot.get r)) m)
    {read : List String} (honce : ∀ c ∈ plan.columns, c.seen read ms ≤ 1)
    (hdef : ∀ c ∈ plan.columns, c.seen read ms = 0 → c.default = some (c.get r)) {record : σ}
    (hr : plan.Holds r read record) {fuel : Nat} (hf : ms.length < fuel) (s : Input) :
    ∃ w, Spaces w ∧ readMembers schema fuel first record read (u ++ '\x7d' :: s) =
      .ok (r, w ++ '\x7d' :: s) := by
  induction hu generalizing read record fuel with
  | @nil first w hw =>
      obtain ⟨fuel, rfl⟩ := Nat.exists_eq_succ_of_ne_zero (Nat.ne_of_gt hf)
      have hunread : ∀ c ∈ plan.columns, c.name ∉ read → c.default = some (c.get r) := by
        intro c hc hread
        refine hdef c hc ?_
        rw [Column.seen, if_neg hread]
        rfl
      obtain rfl := hr.eq hunread
      have hmissing : schema.missing? read = none := missing?_eq_none fun c hc hread =>
        Option.isSome_of_eq_some (hunread c hc hread)
      refine ⟨w, hw, ?_⟩
      simp only [readMembers, memberStart_end hw, hmissing, bind, Except.bind]
  | @cons first w k w₁ w₂ t u key ms hg hk hw₁ hw₂ hrest ih =>
      obtain ⟨fuel, rfl⟩ := Nat.exists_eq_succ_of_ne_zero (Nat.ne_of_gt (Nat.zero_lt_of_lt hf))
      have hf' : ms.length < fuel := Nat.lt_of_succ_lt_succ hf
      obtain ⟨hknown, hunknown⟩ := hms _ List.mem_cons_self
      have hms' := fun m hm => hms m (List.mem_cons_of_mem (key, t) hm)
      rw [plan.forall_slots] at hknown hunknown
      simp only [List.append_assoc, List.cons_append]
      by_cases hkey : ∃ c ∈ plan.columns, c.GoesBy key
      · obtain ⟨c, hc, hck⟩ := hkey
        have hread : c.name ∉ read := by
          intro hread
          have htwice := two_le_seen hck hread t ms
          have := honce c hc
          omega
        -- what has been seen of a field stays the same when the member moves to what has been read
        have hseen : ∀ d ∈ plan.columns,
            d.seen (c.name :: read) ms = d.seen read ((key, t) :: ms) :=
          fun d hd => plan.seen_known hc hd hck hread t ms
        obtain ⟨w', hw', hrun⟩ := ih hms' (fun d hd => by rw [hseen d hd]; exact honce d hd)
          (fun d hd h0 => hdef d hd (by rw [← hseen d hd]; exact h0)) (hr.put hc) hf'
        refine ⟨w', hw', ?_⟩
        rw [plan.readMembers_known hc hck hread hg hk hw₁ hw₂ (hknown c hc hck), hrun]
      · have hnone : ∀ c ∈ plan.columns, ¬ c.GoesBy key := fun c hc hck => hkey ⟨c, hc, hck⟩
        have hseen : ∀ d ∈ plan.columns, d.seen read ((key, t) :: ms) = d.seen read ms :=
          fun d hd => seen_unknown (hnone d hd) read t ms
        obtain ⟨w', hw', hrun⟩ := ih hms' (fun d hd => by rw [← hseen d hd]; exact honce d hd)
          (fun d hd h0 => hdef d hd (by rw [hseen d hd]; exact h0)) hr hf'
        refine ⟨w', hw', ?_⟩
        have hd : Delimited (u ++ '\x7d' :: s) :=
          hrest.delimited (Frame.delimited_closer .object s)
        rw [plan.readMembers_unknown hnone hg hk hw₁ hw₂ (hunknown hnone) hd, hrun]

/-- The field of the name is mentioned again by the members, or inside one of them. -/
def Again (plan : Plan schema slots) (read : List String) (ms : List (String × Input))
    (name : String) : Prop :=
  (∃ c ∈ plan.columns, c.name = name ∧ 2 ≤ c.seen read ms) ∨
    ∃ m ∈ ms, ∃ c ∈ plan.columns, c.GoesBy m.1 ∧ c.form.repeats name m.2

/-- Before anything is read, a field comes again if two members go by it, or if the value of a
member repeats one. -/
theorem again_nil (plan : Plan schema slots) {ms : List (String × Input)} {name : String} :
    plan.Again [] ms name ↔ (∃ slot ∈ slots, slot.name = name ∧ 2 ≤ slot.times ms) ∨
      ∃ m ∈ ms, ∃ slot ∈ slots, slot.GoesBy m.1 ∧ slot.form.repeats name m.2 := by
  simp only [Again, plan.exists_slots, Column.seen_nil]

/-- A member with no such field inside changes nothing when it has been read. -/
theorem again_cons {read read' : List String} {m : String × Input} {ms : List (String × Input)}
    (hseen : ∀ c ∈ plan.columns, c.seen read' ms = c.seen read (m :: ms))
    (hinner : ∀ c ∈ plan.columns, c.GoesBy m.1 → ¬ ∃ name, c.form.repeats name m.2)
    {name : String} : plan.Again read' ms name ↔ plan.Again read (m :: ms) name := by
  refine or_congr (exists_congr fun c => and_congr_right fun hc => ?_) ?_
  · rw [hseen c hc]
  · constructor
    · rintro ⟨m', hm', hrep⟩
      exact ⟨m', List.mem_cons_of_mem m hm', hrep⟩
    · rintro ⟨m', hm', c, hc, hcm, hrep⟩
      rcases List.mem_cons.mp hm' with rfl | hm'
      · exact absurd ⟨name, hrep⟩ (hinner c hc hcm)
      · exact ⟨m', hm', c, hc, hcm, hrep⟩

/-- The first field that is mentioned again ends the reading. -/
theorem readMembers_repeats {first : Bool} {ms : List (String × Input)} {u : Input}
    (hu : Members StringText first ms u)
    (hms : ∀ m ∈ ms, Fits slots (fun slot => slot.form.Shaped) m) {read : List String}
    {name : String} (hagain : plan.Again read ms name) (record : σ) {fuel : Nat}
    (hf : ms.length < fuel) (s : Input) :
    ∃ n, plan.Again read ms n ∧
      readMembers schema fuel first record read (u ++ '\x7d' :: s) =
        .error (.duplicateField n) := by
  induction hu generalizing read record fuel with
  | @nil first w hw =>
      -- the end is not reached
      exfalso
      rcases hagain with ⟨c, -, -, hc⟩ | ⟨m, hm, -⟩
      · have hle : c.seen read [] ≤ 1 := by
          rw [Column.seen, Slot.times, List.countP_nil]
          split_ifs <;> omega
        omega
      · cases hm
  | @cons first w k w₁ w₂ t u key ms hg hk hw₁ hw₂ hrest ih =>
      obtain ⟨fuel, rfl⟩ := Nat.exists_eq_succ_of_ne_zero (Nat.ne_of_gt (Nat.zero_lt_of_lt hf))
      have hf' : ms.length < fuel := Nat.lt_of_succ_lt_succ hf
      obtain ⟨hknown, hunknown⟩ := hms _ List.mem_cons_self
      have hms' := fun m hm => hms m (List.mem_cons_of_mem (key, t) hm)
      rw [plan.forall_slots] at hknown hunknown
      simp only [List.append_assoc, List.cons_append]
      by_cases hkey : ∃ c ∈ plan.columns, c.GoesBy key
      · obtain ⟨c, hc, hck⟩ := hkey
        by_cases hread : c.name ∈ read
        · exact ⟨c.name, .inl ⟨c, hc, rfl, two_le_seen hck hread t ms⟩,
            plan.readMembers_again hc hck hread hg hk hw₁⟩
        -- the value itself may mention a field again, which then comes first
        by_cases hinner : ∃ n, c.form.repeats n t
        · obtain ⟨n, hn⟩ := hinner
          obtain ⟨n', hn', hrun⟩ := plan.readMembers_inner hc hck hread hg hk hw₁ hw₂ hn
          exact ⟨n', .inr ⟨_, List.mem_cons_self, c, hc, hck, hn'⟩, hrun⟩
        obtain ⟨a, ha⟩ := (hknown c hc hck).resolve_right hinner
        have hagain' : ∀ n,
            plan.Again (c.name :: read) ms n ↔ plan.Again read ((key, t) :: ms) n := by
          refine fun n => again_cons (fun d hd => plan.seen_known hc hd hck hread t ms) ?_
          intro d hd hdk
          rwa [plan.eq_of_goesBy hd hc hdk hck]
        obtain ⟨n, hn, hrun⟩ := ih hms' ((hagain' name).mpr hagain) (c.put a record) hf'
        refine ⟨n, (hagain' n).mp hn, ?_⟩
        rw [plan.readMembers_known hc hck hread hg hk hw₁ hw₂ ha, hrun]
      · have hnone : ∀ c ∈ plan.columns, ¬ c.GoesBy key := fun c hc hck => hkey ⟨c, hc, hck⟩
        have hagain' : ∀ n, plan.Again read ms n ↔ plan.Again read ((key, t) :: ms) n := fun n =>
          again_cons (fun d hd => (seen_unknown (hnone d hd) read t ms).symm)
            fun d hd hdk => absurd hdk (hnone d hd)
        obtain ⟨n, hn, hrun⟩ := ih hms' ((hagain' name).mpr hagain) record hf'
        refine ⟨n, (hagain' n).mp hn, ?_⟩
        have hd : Delimited (u ++ '\x7d' :: s) :=
          hrest.delimited (Frame.delimited_closer .object s)
        rw [plan.readMembers_unknown hnone hg hk hw₁ hw₂ (hunknown hnone) hd, hrun]

/-! ### Positions -/

section

variable {index : Nat} {first : Bool} {w t s : Input} {c : Column σ} {fs : List (Field σ)}
  {record : σ}

/-- A value fills the field at its position. -/
theorem readPositions_value (hg : Gap first w) {a : c.α} (ha : c.form.presents a t) :
    readPositions schema (c.field :: fs) index first record (w ++ (t ++ s)) =
      readPositions schema fs (index + 1) false (c.put a record) s := by
  have hopens : Opens t := c.reads.opens (.inl ⟨a, ha⟩)
  have hv : c.read (t ++ s) = .ok (a, s) := c.reads.value ha (hopens.skipSpace_append s)
  simp only [readPositions, itemStart_opens hg hopens, Column.field, Json.field, hv, bind,
    Except.bind]

theorem readPositions_inner (hg : Gap first w) {name : String} (ht : c.form.repeats name t) :
    ∃ n, c.form.repeats n t ∧
      readPositions schema (c.field :: fs) index first record (w ++ (t ++ s)) =
        .error (.duplicateField n) := by
  have hopens : Opens t := c.reads.opens (.inr ⟨name, ht⟩)
  obtain ⟨n, hn, hv⟩ := c.reads.again ht (hopens.skipSpace_append s)
  refine ⟨n, hn, ?_⟩
  simp only [readPositions, itemStart_opens hg hopens, Column.field, Json.field, hv, bind,
    Except.bind]

/-- At the end of the list the remaining fields keep their defaults. -/
theorem readPositions_end (hw : Spaces w) (hc : c.default.isSome = true) :
    readPositions schema (c.field :: fs) index first record (w ++ ']' :: s) =
      readPositions schema fs (index + 1) first record (w ++ ']' :: s) := by
  have hreq : c.default.isNone = false := by simpa using hc
  simp only [readPositions, itemStart_end hw, Column.field, Json.field, hreq, bind, Except.bind,
    Bool.false_eq_true, if_false]

end

/-- The elements are read into the columns that are left, up to the blanks before the end of the
list. -/
theorem readPositions_presents {r : σ} {cs : List (Column σ)} (hcs : cs ⊆ plan.columns)
    {first : Bool} {ts : List Input} {u : Input} (hu : Items first ts u)
    (hlen : ts.length ≤ cs.length)
    (hts : ∀ p ∈ (cs.map (·.toSlot)).zip ts, p.1.form.presents (p.1.get r) p.2)
    (htail : ∀ slot ∈ (cs.map (·.toSlot)).drop ts.length, slot.default = some (slot.get r))
    {read : List String} {record : σ} (hr : plan.Holds r read record)
    (hread : ∀ c ∈ plan.columns, c.name ∉ read → c ∈ cs ∨ c.default = some (c.get r))
    (index : Nat) (s : Input) :
    ∃ w, Spaces w ∧ readPositions schema (cs.map (·.field)) index first record (u ++ ']' :: s) =
      .ok (r, w ++ ']' :: s) := by
  -- along the columns: where the list has ended, those that are left keep their defaults
  induction cs generalizing first ts u read record index with
  | nil =>
      obtain rfl := List.length_eq_zero_iff.mp (Nat.le_zero.mp hlen)
      obtain ⟨hw⟩ | _ := hu
      refine ⟨u, hw, ?_⟩
      obtain rfl := hr.eq fun c hc hc' => (hread c hc hc').resolve_left List.not_mem_nil
      rfl
  | cons c cs ih =>
      obtain ⟨hc, hcs'⟩ := List.cons_subset.mp hcs
      rw [List.map_cons]
      cases hu with
      | nil hw =>
          obtain ⟨hdef, hdefs⟩ := List.forall_mem_cons.mp htail
          obtain ⟨w, hw', hrun⟩ := ih hcs' (.nil hw) (Nat.zero_le _) (by simp) hdefs hr
            (fun d hd hd' => by
              rcases hread d hd hd' with hmem | hdef'
              · rcases List.mem_cons.mp hmem with rfl | hmem
                · exact .inr hdef
                · exact .inl hmem
              · exact .inr hdef') (index + 1)
          refine ⟨w, hw', ?_⟩
          rw [readPositions_end hw (Option.isSome_of_eq_some hdef), hrun]
      | @cons _ w t u ts hg hrest =>
          rw [List.map_cons, List.zip_cons_cons, List.forall_mem_cons] at hts
          obtain ⟨w', hw', hrun⟩ := ih hcs' hrest (Nat.le_of_succ_le_succ hlen) hts.2 htail
            (hr.put hc) (fun d hd hd' => by
              rw [List.mem_cons, not_or] at hd'
              rcases hread d hd hd'.2 with hmem | hdef
              · rcases List.mem_cons.mp hmem with rfl | hmem
                · exact absurd rfl hd'.1
                · exact .inl hmem
              · exact .inr hdef) (index + 1)
          refine ⟨w', hw', ?_⟩
          rw [List.append_assoc, List.append_assoc, readPositions_value hg hts.1, hrun]

/-- The first element that mentions a field again ends the reading. -/
theorem readPositions_repeats (schema : Schema σ) {cs : List (Column σ)} {first : Bool}
    {ts : List Input} {u : Input} (hu : Items first ts u)
    (hts : ∀ p ∈ (cs.map (·.toSlot)).zip ts, p.1.form.Shaped p.2)
    (hrep : ∃ p ∈ (cs.map (·.toSlot)).zip ts, ∃ name, p.1.form.repeats name p.2)
    (index : Nat) (record : σ) (s : Input) :
    ∃ n, (∃ p ∈ (cs.map (·.toSlot)).zip ts, p.1.form.repeats n p.2) ∧
      readPositions schema (cs.map (·.field)) index first record (u ++ ']' :: s) =
        .error (.duplicateField n) := by
  induction cs generalizing first ts u index record with
  | nil =>
      obtain ⟨p, hp, -⟩ := hrep
      cases hp
  | cons c cs ih =>
      cases hu with
      | nil hw =>
          obtain ⟨p, hp, -⟩ := hrep
          cases hp
      | @cons _ w t u ts hg hrest =>
          rw [List.map_cons, List.zip_cons_cons] at hts hrep ⊢
          rw [List.map_cons, List.append_assoc, List.append_assoc]
          rw [List.forall_mem_cons] at hts
          by_cases hinner : ∃ name, c.form.repeats name t
          · obtain ⟨name, hname⟩ := hinner
            obtain ⟨n, hn, hrun⟩ := readPositions_inner hg hname
            exact ⟨n, ⟨_, List.mem_cons_self, hn⟩, hrun⟩
          · obtain ⟨a, ha⟩ := hts.1.resolve_right hinner
            obtain ⟨p, hp, hprep⟩ := hrep
            rcases List.mem_cons.mp hp with rfl | hp
            · exact absurd hprep hinner
            obtain ⟨n, ⟨q, hq, hqrep⟩, hrun⟩ :=
              ih hrest hts.2 ⟨p, hp, hprep⟩ (index + 1) (c.put a record)
            refine ⟨n, ⟨q, List.mem_cons_of_mem _ hq, hqrep⟩, ?_⟩
            rw [readPositions_value hg ha, hrun]

end Plan

/-- An object is at least as long as it has members, so that its length is fuel enough. -/
theorem Members.length_le {κ : Type} {Key : κ → Input → Prop} {first : Bool}
    {ms : List (κ × Input)} {u : Input} (h : Members Key first ms u) : ms.length ≤ u.length := by
  induction h with
  | nil => exact Nat.zero_le _
  | cons _ _ _ _ _ ih =>
      simp only [List.length_cons, List.length_append]
      omega

theorem Members.length_lt {κ : Type} {Key : κ → Input → Prop} {first : Bool}
    {ms : List (κ × Input)} {u : Input} (h : Members Key first ms u) (s : Input) :
    ms.length < (u ++ '\x7d' :: s).length + 1 := by
  have hlen := h.length_le
  simp only [List.length_append]
  omega

/-- **A record is read from every text that presents it**, and a field that is mentioned again is
reported. -/
theorem Plan.reads {schema : Schema σ} {slots : List (Slot σ)} (plan : Plan schema slots) :
    ReadsForm (readRecord schema) (.record slots) where
  opens := by
    intro t h
    obtain ⟨u, rfl | rfl⟩ := record_shaped h
    · exact opens_braced u
    · exact opens_bracketed u
  value := by
    intro r t s rest ht hs
    cases ht with
    | @object ms u hms honce hdef hu =>
        rw [plan.forall_slots] at honce hdef
        obtain ⟨w, hw, hrun⟩ := readMembers_presents hu hms
          (fun c hc => by rw [c.seen_nil]; exact honce c hc)
          (fun c hc h0 => hdef c hc (by rw [← c.seen_nil]; exact h0)) (plan.holds_blank r)
          (hu.length_lt rest) rest
        simp only [braced, List.cons_append, List.append_assoc, List.nil_append] at hs
        simp only [readRecord, hs, hrun, objectEnd_end hw, bind, Except.bind]
    | @positions ts u hlen hts htail hu =>
        rw [plan.slots_eq] at hlen hts htail
        rw [List.length_map] at hlen
        obtain ⟨w, hw, hrun⟩ := readPositions_presents (List.Subset.refl _) hu hlen hts htail
          (plan.holds_blank r) (fun c hc _ => .inl hc) 0 rest
        simp only [bracketed, List.cons_append, List.append_assoc, List.nil_append] at hs
        simp only [readRecord, hs, plan.fields_eq, hrun, listEnd_end hw, bind, Except.bind]
  again := by
    intro name t s rest ht hs
    cases ht with
    | @object ms u hms hreq hagain hu =>
        obtain ⟨n, hn, hrun⟩ := readMembers_repeats hu hms (plan.again_nil.mpr hagain)
          schema.blank (hu.length_lt rest) rest
        refine ⟨n, .object hms hreq (plan.again_nil.mp hn) hu, ?_⟩
        simp only [braced, List.cons_append, List.append_assoc, List.nil_append] at hs
        simp only [readRecord, hs, hrun, bind, Except.bind]
    | @positions ts u hlen hts htail hrep hu =>
        obtain ⟨p, hp, hprep⟩ := hrep
        rw [plan.slots_eq] at hp
        obtain ⟨n, hn, hrun⟩ := readPositions_repeats schema hu (plan.slots_eq ▸ hts)
          ⟨p, hp, name, hprep⟩ 0 schema.blank rest
        rw [← plan.slots_eq] at hn
        refine ⟨n, .positions hlen hts htail hn hu, ?_⟩
        simp only [bracketed, List.cons_append, List.append_assoc, List.nil_append] at hs
        simp only [readRecord, hs, plan.fields_eq, hrun, bind, Except.bind]

end ModuleDocs.Json
