import ModuleDocs.Proofs.RecordForms
import ModuleDocs.Source

/-!
# Proofs — Forms of comments

A text may present comments in many forms, and they are read alike from each: with the fields in any
order, in objects or in lists, tags under either of their names, kinds as strings or as objects, and
what the reader does not know passed over.

* `Comment.slots` and the like: the fields of each record as its texts may have them.
* `Comment.plan` and the like: the schemas read these forms.
* `readComments_anyForm`: comments are read from every text that presents them, and a field that is
  mentioned again is reported.
-/

namespace ModuleDocs

open Json

/-! ### The forms -/

/-- The kind goes by its name; a name that no kind has is that of an unknown one. -/
def ContextKind.GoesBy (kind : ContextKind) (name : String) : Prop :=
  name = kind.name ∨ kind = .unknown ∧ ∀ k : ContextKind, name ≠ k.name

/-- The kind goes by its name; a name that no kind has is that of another one. -/
def CommentKind.GoesBy (kind : CommentKind) (name : String) : Prop :=
  name = kind.name ∨ kind = .other ∧ ∀ k : CommentKind, name ≠ k.name

/-- The fields of a scope. -/
def Scope.slots : List (Slot Scope) :=
  [{ name := "owner", default := some none, get := (·.owner), form := .optional .text }]

/-- The fields of a context. -/
def Context.slots : List (Slot Context) :=
  [{ name := "type", default := none, get := (·.kind), form := .choice ContextKind.GoesBy },
   { name := "name", default := some "", get := (·.name), form := .text },
   { name := "scope", default := some none, get := (·.scope),
     form := .optional (.record Scope.slots) }]

/-- The fields of a tag. -/
def Tag.slots : List (Slot Tag) :=
  [{ name := "key", aliases := ["type"], default := none, get := (·.key), form := .text },
   { name := "value", aliases := ["string"], default := some "", get := (·.value), form := .text }]

/-- The fields of native tags. -/
def NativeTags.slots : List (Slot NativeTags) :=
  [{ name := "deprecated", default := some none, get := (·.deprecated), form := .optional .text }]

/-- The fields of a comment. -/
def Comment.slots : List (Slot Comment) :=
  [{ name := "ctx", default := some none, get := (·.context),
     form := .optional (.record Context.slots) },
   { name := "tags", default := some [], get := (·.tags), form := .list (.record Tag.slots) },
   { name := "nativeTags", default := some {}, get := (·.nativeTags),
     form := .record NativeTags.slots },
   { name := "isPrivate", default := some none, get := (·.isPrivate), form := .optional .flag },
   { name := "isConstructor", default := some false, get := (·.isConstructor), form := .flag },
   { name := "description", default := some "", get := (·.description), form := .text },
   { name := "code", default := some "", get := (·.code), form := .text },
   { name := "kind", default := some .block, get := (·.kind),
     form := .choice CommentKind.GoesBy },
   { name := "mixesInto", default := some none, get := (·.mixesInto), form := .optional .text }]

/-- A list of comments. -/
def Comment.listForm : Form (List Comment) := .list (.record Comment.slots)

/-! ### Their readers -/

theorem ContextKind.ofName_name (kind : ContextKind) : ofName kind.name = kind := by
  cases kind <;> rfl

theorem CommentKind.ofName_name (kind : CommentKind) : ofName kind.name = kind := by
  cases kind <;> rfl

/-- A kind of context is found under every name that it goes by. -/
theorem ContextKind.ofName_of_goesBy (kind : ContextKind) (name : String) (h : kind.GoesBy name) :
    ofName name = kind := by
  rcases h with rfl | ⟨rfl, h⟩
  · exact ofName_name kind
  · unfold ofName
    split
    · exact absurd rfl (h .declaration)
    · exact absurd rfl (h .function)
    · exact absurd rfl (h .method)
    · exact absurd rfl (h .property)
    · rfl

/-- So is a kind of comment. -/
theorem CommentKind.ofName_of_goesBy (kind : CommentKind) (name : String) (h : kind.GoesBy name) :
    ofName name = kind := by
  rcases h with rfl | ⟨rfl, h⟩
  · exact ofName_name kind
  · unfold ofName
    split
    · exact absurd rfl (h .description)
    · exact absurd rfl (h .block)
    · rfl

/-- How the slots of a scope are read. -/
def Scope.plan : Plan Scope.schema Scope.slots where
  cols := .cons (reads_text.optional notNull_text) (fun _ _ => rfl) .nil
  distinct := by simp [Columns.toList]
  frame := by simp [Columns.toList]
  blank := by simp [Columns.toList, schema]
  ext := by
    rintro ⟨owner⟩ ⟨owner'⟩ h
    simpa [Columns.toList] using h

/-- How the slots of a context are read. -/
def Context.plan : Plan Context.schema Context.slots where
  cols := .cons (reads_choice ContextKind.ofName_of_goesBy) (fun _ _ => rfl)
    (.cons reads_text (fun _ _ => rfl)
      (.cons (Scope.plan.reads.optional (notNull_record _)) (fun _ _ => rfl) .nil))
  distinct := by simp [Columns.toList]
  frame := by simp [Columns.toList]
  blank := by simp [Columns.toList, schema]
  ext := by
    rintro ⟨kind, name, scope⟩ ⟨kind', name', scope'⟩ h
    simpa [Columns.toList] using h

/-- How the slots of a tag are read. -/
def Tag.plan : Plan Tag.schema Tag.slots where
  cols := .cons reads_text (fun _ _ => rfl) (.cons reads_text (fun _ _ => rfl) .nil)
  distinct := by simp [Columns.toList]
  frame := by simp [Columns.toList]
  blank := by simp [Columns.toList, schema]
  ext := by
    rintro ⟨key, value⟩ ⟨key', value'⟩ h
    simpa [Columns.toList] using h

/-- How the slots of native tags are read. -/
def NativeTags.plan : Plan NativeTags.schema NativeTags.slots where
  cols := .cons (reads_text.optional notNull_text) (fun _ _ => rfl) .nil
  distinct := by simp [Columns.toList]
  frame := by simp [Columns.toList]
  blank := by simp [Columns.toList, schema]
  ext := by
    rintro ⟨deprecated⟩ ⟨deprecated'⟩ h
    simpa [Columns.toList] using h

/-- How the slots of a comment are read. -/
def Comment.plan : Plan Comment.schema Comment.slots where
  cols := .cons (Context.plan.reads.optional (notNull_record _)) (fun _ _ => rfl)
    (.cons Tag.plan.reads.list (fun _ _ => rfl)
      (.cons NativeTags.plan.reads (fun _ _ => rfl)
        (.cons (reads_flag.optional notNull_flag) (fun _ _ => rfl)
          (.cons reads_flag (fun _ _ => rfl)
            (.cons reads_text (fun _ _ => rfl)
              (.cons reads_text (fun _ _ => rfl)
                (.cons (reads_choice CommentKind.ofName_of_goesBy) (fun _ _ => rfl)
                  (.cons (reads_text.optional notNull_text) (fun _ _ => rfl) .nil))))))))
  distinct := by simp [Columns.toList]
  frame := by simp [Columns.toList]
  blank := by simp [Columns.toList, schema]
  ext := by
    rintro ⟨⟩ ⟨⟩ h
    simpa [Columns.toList] using h

/-! ### Whole texts -/

section

variable {α : Type} {read : Reader α} {form : Form α}

/-- A text that presents a value is read as it. -/
theorem readWhole_presents (h : ReadsForm read form) {a : α} {text : String}
    (ht : WholeIs (form.presents a) text) : readWhole read text = .ok a := by
  obtain ⟨w, t, w', hw, ht, hw', rfl⟩ := ht
  have hs : skipSpace (w ++ (t ++ w')) = t ++ w' := by
    rw [skipSpace_append hw, (h.opens (.inl ⟨a, ht⟩)).skipSpace_append]
  have he : skipSpace w' = [] := by
    rw [← List.append_nil w', skipSpace_append hw']
    rfl
  rw [readWhole, String.toList_ofList, h.value ht hs]
  simp [bind, Except.bind, he]

/-- A text that gives a field twice is refused, with the name of such a field. -/
theorem readWhole_repeats (h : ReadsForm read form) {name text : String}
    (ht : WholeIs (form.repeats name) text) :
    ∃ n, WholeIs (form.repeats n) text ∧ readWhole read text = .error (.duplicateField n) := by
  obtain ⟨w, t, w', hw, ht, hw', rfl⟩ := ht
  have hs : skipSpace (w ++ (t ++ w')) = t ++ w' := by
    rw [skipSpace_append hw, (h.opens (.inr ⟨name, ht⟩)).skipSpace_append]
  obtain ⟨n, hn, hr⟩ := h.again ht hs
  refine ⟨n, ⟨w, t, w', hw, hn, hw', rfl⟩, ?_⟩
  rw [readWhole, String.toList_ofList, hr]
  rfl

end

theorem Comment.reads_listForm : ReadsForm (readList Comment.read) Comment.listForm :=
  Comment.plan.reads.list

/-- The text of a list is not taken for a text without comments. -/
theorem Comment.parseAll_of_shaped {text : String} (h : WholeIs Comment.listForm.Shaped text) :
    Comment.parseAll text = readWhole (readList Comment.read) text := by
  have hblank : Text.allBlank text = false := by
    obtain ⟨w, t, w', -, ht, -, rfl⟩ := h
    obtain ⟨u, rfl⟩ : ∃ u, t = bracketed u := by
      rcases ht with ⟨cs, ts, u, -, -, rfl⟩ | ⟨name, ts, u, -, -, -, rfl⟩ <;> exact ⟨u, rfl⟩
    rw [Text.allBlank, String.toList_ofList, List.all_eq_false]
    exact ⟨'[', by simp [bracketed], by decide⟩
  rw [parseAll, hblank, if_neg Bool.false_ne_true]

/-- **Every text that presents comments is read as them.** -/
theorem Comment.readComments_presents (path : String) {cs : List Comment} {text : String}
    (h : WholeIs (Comment.listForm.presents cs) text) : readComments path text = .ok cs := by
  rw [readComments, parseAll_of_shaped (h.mono fun _ ht => .inl ⟨cs, ht⟩),
    readWhole_presents reads_listForm h]

/-- **Comments are read from every form of their text.**  Whatever the order of the fields and the
names that they go by, whether they stand in an object or in a list, with defaults left out and
unknown fields between them, a text that presents comments is read as those comments; and a text
that would but for fields that it mentions again is refused, with a message that starts by naming
such a field. -/
theorem readComments_anyForm (path text : String) :
    (∀ cs, WholeIs (Comment.listForm.presents cs) text → readComments path text = .ok cs) ∧
      ∀ name, WholeIs (Comment.listForm.repeats name) text →
        ∃ field message, WholeIs (Comment.listForm.repeats field) text ∧
          readComments path text = .error (.commentParse path message) ∧
          ("duplicate field `" ++ field ++ "`").toList <+: message.toList := by
  refine ⟨fun cs h => Comment.readComments_presents path h, fun name h => ?_⟩
  obtain ⟨field, hfield, hr⟩ := readWhole_repeats Comment.reads_listForm h
  refine ⟨field, (Fault.duplicateField field).message, hfield, ?_, List.prefix_refl _⟩
  rw [readComments, Comment.parseAll_of_shaped (h.mono fun _ ht => .inr ⟨name, ht⟩), hr]

/-! ### A text of many forms -/

/-- A value of some depth, with half of a surrogate pair for a name. -/
def deepText : Input := listText ["-1.5e+3".toList, objectText [("\\ud800", listText [])]]

/-- The deeply nested text is a value. -/
theorem isValue_deepText : IsValue deepText := by
  have hnumber : IsNumber "-1.5e+3".toList :=
    ⟨['-'], by decide, ['1'], ['.', '5'], ['e', '+', '3'], by simp [Digits], by decide,
      .inr ⟨['5'], by simp [Digits], rfl⟩,
      .inr ⟨'e', by decide, ['+'], by decide, ['3'], by simp [Digits], rfl⟩, by decide⟩
  have hhalf : CodeUnit 0xD800 ['d', '8', '0', '0'] :=
    .digits (show HexDigit 13 _ by decide) (show HexDigit 8 _ by decide)
      (show HexDigit 0 _ by decide) (show HexDigit 0 _ by decide)
  have hkey : IsString (plainText "\\ud800") :=
    ⟨[['\\', 'u', 'd', '8', '0', '0']], by simpa using Piece.unit hhalf, by decide⟩
  have hempty : IsValue (listText []) := .list (by simp) (items_spread .nil [])
  have hmember : Members Eq true [(plainText "\\ud800", listText [])] _ :=
    (items_spread .nil [plainText "\\ud800" ++ ':' :: listText []]).members (k := id) (by simp)
  have hobject : IsValue (objectText [("\\ud800", listText [])]) :=
    .object (by simpa using hkey) (by simpa using hempty) hmember
  exact .list (by simpa using And.intro (.number hnumber) hobject) (items_spread .nil _)

/-- A tag as a list and one as an object, under other names and with a field that is not known. -/
def tagsText : Input :=
  listText [listText [plainText "param"],
    objectText [("string", plainText "\\ud83d\\uDE00"), ("x", deepText), ("type", plainText "k")]]

theorem presents_tagsText : (Form.list (.record Tag.slots)).presents
    [{ key := "param" }, { key := "k", value := "😀" }] tagsText := by
  have hlead : CodeUnit 0xD83D ['d', '8', '3', 'd'] :=
    .digits (show HexDigit 13 _ by decide) (show HexDigit 8 _ by decide)
      (show HexDigit 3 _ by decide) (show HexDigit 13 _ by decide)
  have htrail : CodeUnit 0xDE00 ['D', 'E', '0', '0'] :=
    .digits (show HexDigit 13 _ by decide) (show HexDigit 14 _ by decide)
      (show HexDigit 0 _ by decide) (show HexDigit 0 _ by decide)
  have hsmile : Form.text.presents "😀" (plainText "\\ud83d\\uDE00") :=
    ⟨_, .cons (.pair (by decide) hlead htrail) .nil, by decide⟩
  have hparam : Form.text.presents "param" (plainText "param") := stringText_plainText (by decide)
  have hk : Form.text.presents "k" (plainText "k") := stringText_plainText (by decide)
  have hlist : RecordText Tag.slots { key := "param" } (listText [plainText "param"]) :=
    .positions (by decide) (by simpa [Tag.slots] using hparam) (by simp [Tag.slots])
      (items_spread .nil _)
  have hobject : RecordText Tag.slots { key := "k", value := "😀" } (objectText
      [("string", plainText "\\ud83d\\uDE00"), ("x", deepText), ("type", plainText "k")]) := by
    refine .object ?_ (by decide) (by simp [Tag.slots, Slot.times, Slot.GoesBy])
      (members_objectText (by decide))
    simp only [List.forall_mem_cons]
    refine ⟨⟨?_, ?_⟩, ⟨?_, ?_⟩, ⟨?_, ?_⟩, List.forall_mem_nil _⟩
    · simpa [Tag.slots, Slot.GoesBy] using hsmile
    · simp [Tag.slots, Slot.GoesBy]
    · simp [Tag.slots, Slot.GoesBy]
    · exact fun _ => isValue_deepText
    · simpa [Tag.slots, Slot.GoesBy] using hk
    · simp [Tag.slots, Slot.GoesBy]
  exact ⟨_, _, .cons hlist (.cons hobject .nil), items_spread .nil _, rfl⟩

/-- A kind as an object. -/
def kindText : Input := objectText [("description", ['n', 'u', 'l', 'l'])]

/-- A comment with `null` for what it does not say. -/
theorem presents_comment : RecordText Comment.slots
    { kind := .description, tags := [{ key := "param" }, { key := "k", value := "😀" }] }
    (objectText [("kind", kindText), ("isPrivate", ['n', 'u', 'l', 'l']), ("tags", tagsText)]) := by
  have hkind : (Form.choice CommentKind.GoesBy).presents .description kindText :=
    ⟨"description", .inl rfl, .inr ⟨_, members_objectText (by decide), rfl⟩⟩
  have hnull : (Form.optional .flag).presents none ['n', 'u', 'l', 'l'] := rfl
  refine .object ?_ (by decide) (by simp [Comment.slots, Slot.times, Slot.GoesBy])
    (members_objectText (by decide))
  simp only [List.forall_mem_cons]
  refine ⟨⟨?_, ?_⟩, ⟨?_, ?_⟩, ⟨?_, ?_⟩, List.forall_mem_nil _⟩
  · simpa [Comment.slots, Slot.GoesBy] using hkind
  · simp [Comment.slots, Slot.GoesBy]
  · simpa [Comment.slots, Slot.GoesBy] using hnull
  · simp [Comment.slots, Slot.GoesBy]
  · simpa [Comment.slots, Slot.GoesBy] using presents_tagsText
  · simp [Comment.slots, Slot.GoesBy]

/-- A tag with its key twice, once by another name. -/
def twoKeysText : Input := objectText [("key", plainText "a"), ("type", plainText "b")]

theorem repeats_twoKeysText : (Form.record Tag.slots).repeats "key" twoKeysText := by
  have ha : Form.text.Shaped (plainText "a") := .inl ⟨"a", stringText_plainText (by decide)⟩
  have hb : Form.text.Shaped (plainText "b") := .inl ⟨"b", stringText_plainText (by decide)⟩
  refine .object ?_ (by decide) (.inl ?_) (members_objectText (by decide))
  · simp only [List.forall_mem_cons]
    refine ⟨⟨?_, ?_⟩, ⟨?_, ?_⟩, List.forall_mem_nil _⟩
    · simpa [Tag.slots, Slot.GoesBy] using ha
    · simp [Tag.slots, Slot.GoesBy]
    · simpa [Tag.slots, Slot.GoesBy] using hb
    · simp [Tag.slots, Slot.GoesBy]
  · simp [Tag.slots, Slot.times, Slot.GoesBy]

theorem repeats_comment : (Form.record Comment.slots).repeats "key"
    (objectText [("tags", listText [twoKeysText])]) := by
  have htags : (Form.list (.record Tag.slots)).repeats "key" (listText [twoKeysText]) :=
    ⟨_, _, List.forall_mem_singleton.mpr (.inr ⟨_, repeats_twoKeysText⟩),
      ⟨_, List.mem_cons_self, repeats_twoKeysText⟩, items_spread .nil _, rfl⟩
  refine .object ?_ (by decide) (.inr ?_) (members_objectText (by decide))
  · simp only [List.forall_mem_cons]
    refine ⟨⟨?_, ?_⟩, List.forall_mem_nil _⟩
    · simpa [Comment.slots, Slot.GoesBy] using .inr ⟨_, htags⟩
    · simp [Comment.slots, Slot.GoesBy]
  · simpa [Comment.slots, Slot.GoesBy] using htags

/-- Two comments, the second as an empty list; and one with a tag that mentions its key twice. -/
theorem readComments_anyForm_nested :
    let cs : List Comment :=
      [{ kind := .description, tags := [{ key := "param" }, { key := "k", value := "😀" }] }, {}]
    let text := "[\x7b\"kind\":\x7b\"description\":null\x7d, \"isPrivate\":null, \"tags\":" ++
      "[[\"param\"],\x7b\"string\":\"\\ud83d\\uDE00\", \"x\":[-1.5e+3,\x7b\"\\ud800\":[]\x7d], " ++
      "\"type\":\"k\"\x7d]\x7d,[]]\n"
    let twice := "[\x7b\"tags\":[\x7b\"key\":\"a\", \"type\":\"b\"\x7d]\x7d]"
    (WholeIs (Comment.listForm.presents cs) text ∧ readComments "m.js" text = .ok cs) ∧
      WholeIs (Comment.listForm.repeats "key") twice ∧
        ∃ field message, WholeIs (Comment.listForm.repeats field) twice ∧
          readComments "m.js" twice = .error (.commentParse "m.js" message) ∧
          ("duplicate field `" ++ field ++ "`").toList <+: message.toList := by
  intro cs text twice
  have hempty : RecordText Comment.slots {} (listText []) :=
    .positions (by decide) (by simp) (by simp [Comment.slots]) (items_spread .nil [])
  have htext : WholeIs (Comment.listForm.presents cs) text :=
    ⟨[], listText [_, listText []], ['\n'], .nil,
      ⟨_, _, .cons presents_comment (.cons hempty .nil), items_spread .nil _, rfl⟩,
      by simp [Spaces, isSpace], by decide +kernel⟩
  have htwice : WholeIs (Comment.listForm.repeats "key") twice :=
    ⟨[], listText [_], [], .nil,
      ⟨_, _, List.forall_mem_singleton.mpr (.inr ⟨_, repeats_comment⟩),
        ⟨_, List.mem_cons_self, repeats_comment⟩, items_spread .nil _, rfl⟩,
      .nil, by decide +kernel⟩
  exact ⟨⟨htext, (readComments_anyForm "m.js" text).1 cs htext⟩, htwice,
    (readComments_anyForm "m.js" twice).2 "key" htwice⟩

end ModuleDocs
