import Mathlib.Data.List.DropRight
import Mathlib.Data.List.Sigma
import Sightline.Abort
import Sightline.Proofs.Json.Passing

/-!
# Records as documents

A record may be written as a mapping, with its members in any order and others between them, or as
a sequence of its first fields.  Either is read to the draft with the values put into it one after
the other, so what a field holds in the end is what is written under its name, if anything is.
-/

set_option autoImplicit false

namespace Sightline.Json

/-! ## Texts of records -/

/-- The members that a record may have, in the order that they have in a sequence, and how their
values are written. -/
structure Shape where
  Key : Type
  Value : Key → Type
  keys : List Key
  name : Key → String
  Spells : (key : Key) → Value key → List Char → List Char → Prop

namespace Shape

variable (shape : Shape)

abbrev Items : Type := List (Sigma shape.Value)

/-- The opening quote of the next member's name, after a comma unless the member is the first. -/
inductive Lead : Bool → List Char → List Char → Prop
  | first {text quoted : List Char} (opening : Blanks text ('"' :: quoted)) : Lead true text quoted
  | next {text more quoted : List Char} (comma : Blanks text (',' :: more))
      (opening : Blanks more ('"' :: quoted)) : Lead false text quoted

/-- Members up to the end mark.  Under a name that is no key any well-formed value may stand. -/
inductive MembersText : Bool → shape.Items → List Char → List Char → Prop
  | close {isFirst : Bool} {text rest : List Char} (closing : Blanks text ('}' :: rest)) :
      MembersText isFirst [] text rest
  | known {isFirst : Bool} {key : shape.Key} {value : shape.Value key} {items : shape.Items}
      {text quoted named valued after rest : List Char} (lead : Lead isFirst text quoted)
      (name : Spelled (shape.name key).toList quoted named) (colon : Blanks named (':' :: valued))
      (spelled : shape.Spells key value valued after) (later : MembersText false items after rest) :
      MembersText isFirst (⟨key, value⟩ :: items) text rest
  | unknown {isFirst : Bool} {cs : List Char} {items : shape.Items}
      {text quoted named valued after rest : List Char} (lead : Lead isFirst text quoted)
      (name : Spelled cs quoted named) (foreign : ∀ key, shape.name key ≠ String.ofList cs)
      (colon : Blanks named (':' :: valued)) (value : Wellformed .value valued after)
      (later : MembersText false items after rest) : MembersText isFirst items text rest

inductive ElementsText : Bool → shape.Items → List Char → List Char → Prop
  | close {isFirst : Bool} {text rest : List Char} (closing : Blanks text (']' :: rest)) :
      ElementsText isFirst [] text rest
  | first {key : shape.Key} {value : shape.Value key} {items : shape.Items}
      {text after rest : List Char} (spelled : shape.Spells key value text after)
      (later : ElementsText false items after rest) : ElementsText true (⟨key, value⟩ :: items) text rest
  | next {key : shape.Key} {value : shape.Value key} {items : shape.Items}
      {text more after rest : List Char} (comma : Blanks text (',' :: more))
      (spelled : shape.Spells key value more after) (later : ElementsText false items after rest) :
      ElementsText false (⟨key, value⟩ :: items) text rest

/-- A mapping with each key once at most, or a sequence of the values of the first keys. -/
inductive RecordText : shape.Items → List Char → List Char → Prop
  | mapping {items : shape.Items} {text inner rest : List Char} (opening : Blanks text ('{' :: inner))
      (members : shape.MembersText true items inner rest) (once : items.NodupKeys) :
      RecordText items text rest
  | sequence {items : shape.Items} {text inner rest : List Char} (opening : Blanks text ('[' :: inner))
      (elements : shape.ElementsText true items inner rest) (inOrder : items.keys <+: shape.keys) :
      RecordText items text rest

end Shape

/-! ## Layouts -/

/-- How a record reads a shape: a field for each key, each of them with its own place in the record. -/
structure Layout {α σ : Type} [Scalar α] (shape : Shape) (record : Record α σ) where
  required : shape.Key → Bool
  reader : (key : shape.Key) → Reader α (shape.Value key)
  put : (key : shape.Key) → σ → shape.Value key → σ
  get : (key : shape.Key) → σ → shape.Value key
  fields : record.fields =
    shape.keys.map fun key => .of (shape.name key) (required key) (reader key) (put key)
  lenient : record.strict = false
  complete : ∀ key, key ∈ shape.keys
  distinct : (shape.keys.map shape.name).Nodup
  get_put : ∀ (key : shape.Key) (draft : σ) (value : shape.Value key),
    get key (put key draft value) = value
  get_put_ne : ∀ {key other : shape.Key} (draft : σ) (value : shape.Value other), key ≠ other →
    get key (put other draft value) = get key draft
  reads : ∀ {key : shape.Key} {value : shape.Value key} {text rest : List Char},
    shape.Spells key value text rest → reader key text = .ok (value, rest)
  passesBlanks : ∀ (key : shape.Key) (text : List Char), reader key (skipBlanks text) = reader key text
  opens : ∀ {key : shape.Key} {value : shape.Value key} {text rest : List Char},
    shape.Spells key value text rest → Opens text
  shortens : ∀ {key : shape.Key} {value : shape.Value key} {text rest : List Char},
    shape.Spells key value text rest → rest.length < text.length

theorem skipBlanks_skipBlanks (text : List Char) : skipBlanks (skipBlanks text) = skipBlanks text :=
  List.dropWhile_idempotent isBlank text

variable {α σ : Type} {text rest quoted : List Char} {isFirst : Bool}

theorem Shape.Lead.read (lead : Shape.Lead isFirst text quoted) :
    (Record.nextMember isFirst text : Except (Problem α) (Bool × List Char)) = .ok (true, quoted) := by
  cases lead with
  | first opening =>
      rw [Record.nextMember, opening.reach rfl]
      rfl
  | next comma opening =>
      rw [Record.nextMember, comma.reach rfl]
      simp only [opening.reach rfl]
      rfl

theorem Shape.Lead.length_lt (lead : Shape.Lead isFirst text quoted) :
    quoted.length < text.length := by
  cases lead with
  | first opening => exact opening.length_le
  | next comma opening =>
      have more := comma.length_le
      have named := opening.length_le
      simp only [List.length_cons] at more named
      omega

theorem nextMember_close (closing : Blanks text ('}' :: rest)) :
    (Record.nextMember isFirst text : Except (Problem α) (Bool × List Char)) = .ok (false, rest) := by
  rw [Record.nextMember, closing.reach rfl]
  rfl

theorem nextElement_close (closing : Blanks text (']' :: rest)) :
    (nextElement isFirst text : Except (Problem α) (Bool × List Char)) =
      .ok (false, ']' :: rest) := by
  rw [nextElement, closing.reach rfl]
  rfl

theorem nextElement_first (opens : Opens text) :
    (nextElement true text : Except (Problem α) (Bool × List Char)) =
      .ok (true, skipBlanks text) := by
  obtain ⟨c, after, blanks, solid, notEnd, _⟩ := opens
  unfold nextElement
  rw [blanks.reach solid]
  split
  · rename_i empty
    cases empty
  · rename_i same
    exact absurd (List.cons.inj same).1 notEnd
  · rename_i same
    cases same
    rfl

theorem nextElement_next {more : List Char} (comma : Blanks text (',' :: more)) (opens : Opens more) :
    (nextElement false text : Except (Problem α) (Bool × List Char)) =
      .ok (true, skipBlanks more) := by
  obtain ⟨c, after, blanks, solid, notEnd, _⟩ := opens
  unfold nextElement
  rw [comma.reach rfl, blanks.reach solid]
  split
  · rename_i empty
    cases empty
  · rename_i same
    cases same
  · rename_i same
    cases same
    simp only [blanks.reach solid, Bool.false_eq_true, if_false, if_true]
    split
    · rename_i empty
      cases empty
    · rename_i same
      exact absurd (List.cons.inj same).1 notEnd
    · rfl

theorem endSequence_close (closing : Blanks text (']' :: rest)) :
    (endSequence text : Except (Problem α) (List Char)) = .ok rest := by
  rw [endSequence, closing.reach rfl]
  rfl

namespace Layout

variable [Scalar α] {shape : Shape} {record : Record α σ} (layout : Layout shape record)
  {key : shape.Key} {items : shape.Items}

include layout in
theorem once : shape.keys.Nodup := layout.distinct.of_map

include layout in
theorem named {key other : shape.Key} (same : shape.name key = shape.name other) : key = other :=
  List.inj_on_of_nodup_map layout.distinct (layout.complete key) (layout.complete other) same

def field (key : shape.Key) : Field α σ :=
  .of (shape.name key) (layout.required key) (layout.reader key) (layout.put key)

def fill (draft : σ) (items : shape.Items) : σ :=
  items.foldl (fun draft item => layout.put item.1 draft item.2) draft

theorem get_fill [DecidableEq shape.Key] (once : items.NodupKeys) (draft : σ) (key : shape.Key) :
    layout.get key (layout.fill draft items) = (items.dlookup key).getD (layout.get key draft) := by
  induction items generalizing draft with
  | nil => rfl
  | cons item items ih =>
      have later := ih (List.nodupKeys_of_nodupKeys_cons once) (layout.put item.1 draft item.2)
      rw [fill, List.foldl_cons, ← fill, later]
      by_cases same : key = item.1
      · subst same
        have absent := List.dlookup_eq_none.2 (List.notMem_keys_of_nodupKeys_cons once)
        rw [absent, List.dlookup_cons_eq]
        exact layout.get_put _ _ _
      · rw [List.dlookup_cons_ne _ _ same, layout.get_put_ne _ _ same]

theorem find?_name (key : shape.Key) :
    record.fields.find? (·.name = shape.name key) = some (layout.field key) := by
  cases found : record.fields.find? (·.name = shape.name key) with
  | none =>
      rw [layout.fields, List.find?_eq_none] at found
      exact absurd (decide_eq_true rfl) (found _ (List.mem_map_of_mem (layout.complete key)))
  | some field =>
      have named := List.find?_some found
      have member := List.mem_of_find?_eq_some found
      rw [layout.fields, List.mem_map] at member
      obtain ⟨other, _, rfl⟩ := member
      rw [layout.named (of_decide_eq_true named)]
      rfl

include layout in
theorem find?_foreign {name : String} (foreign : ∀ key, shape.name key ≠ name) :
    record.fields.find? (·.name = name) = none := by
  rw [layout.fields, List.find?_eq_none]
  intro field member
  obtain ⟨key, _, rfl⟩ := List.mem_map.1 member
  exact fun same => foreign key (of_decide_eq_true same)

theorem enter_field {value : shape.Value key} (spelled : shape.Spells key value text rest) (draft : σ) :
    (layout.field key).enter draft text = .ok (layout.put key draft value, rest) := by
  change (layout.reader key text >>= _) = _
  rw [layout.reads spelled]
  rfl

theorem enter_field_skipBlanks {value : shape.Value key}
    (spelled : shape.Spells key value text rest) (draft : σ) :
    (layout.field key).enter draft (skipBlanks text) = .ok (layout.put key draft value, rest) := by
  change (layout.reader key (skipBlanks text) >>= _) = _
  rw [layout.passesBlanks, layout.reads spelled]
  rfl

theorem missing?_eq_none {met : List String}
    (given : ∀ key, layout.required key = true → shape.name key ∈ met) :
    record.missing? met = none := by
  rw [Record.missing?, Option.map_eq_none_iff, layout.fields, List.find?_eq_none]
  intro field member
  obtain ⟨key, _, rfl⟩ := List.mem_map.1 member
  by_cases required : layout.required key = true
  · simp [Field.of, given key required]
  · simp [Field.of, required]

/-- The names met so far are those of no item to come, and a required name is met or to come. -/
structure Remaining (met : List String) (items : shape.Items) : Prop where
  once : items.NodupKeys
  fresh : ∀ key ∈ items.keys, shape.name key ∉ met
  covered : ∀ key, layout.required key = true → shape.name key ∈ met ∨ key ∈ items.keys

theorem Remaining.later {layout : Layout shape record} {met : List String} {value : shape.Value key}
    (remaining : layout.Remaining met (⟨key, value⟩ :: items)) :
    layout.Remaining (shape.name key :: met) items where
  once := List.nodupKeys_of_nodupKeys_cons remaining.once
  fresh := by
    intro other later named
    rcases List.mem_cons.1 named with same | member
    · rw [layout.named same] at later
      exact List.notMem_keys_of_nodupKeys_cons remaining.once later
    · exact remaining.fresh other (List.mem_cons_of_mem _ later) member
  covered := by
    intro other required
    rcases remaining.covered other required with member | member
    · exact .inl (List.mem_cons_of_mem _ member)
    · rcases List.mem_cons.1 member with same | later
      · rw [show other = key from same]
        exact .inl List.mem_cons_self
      · exact .inr later

theorem enterMembers (members : shape.MembersText isFirst items text rest) :
    ∀ (fuel : Nat) (met : List String) (draft : σ), text.length < fuel →
      layout.Remaining met items →
      record.enterMembers fuel isFirst met draft text = .ok (layout.fill draft items, rest) := by
  induction members with
  | close closing =>
      intro fuel met draft enough remaining
      obtain ⟨spare, rfl⟩ := Nat.exists_eq_add_of_lt enough
      have complete := layout.missing?_eq_none fun key required =>
        (remaining.covered key required).resolve_right List.not_mem_nil
      rw [Record.enterMembers, nextMember_close closing]
      simp only [bind, Except.bind, complete, Bool.false_eq_true, if_false]
      rfl
  | @known isFirst key value items text quoted named valued after rest lead name colon spelled later ih =>
      intro fuel met draft enough remaining
      obtain ⟨spare, rfl⟩ := Nat.exists_eq_add_of_lt enough
      have shorter : after.length < text.length + spare := by
        have quote := lead.length_lt
        have before := name.quoted.valued_lt colon
        have taken := layout.shortens spelled
        omega
      have fresh : met.contains (shape.name key) = false := by
        simpa using remaining.fresh key List.mem_cons_self
      simp only [Record.enterMembers, bind, Except.bind, lead.read, if_true, name.read,
        String.ofList_toList, layout.find?_name, fresh, Bool.false_eq_true, if_false,
        colon_of_blanks colon, layout.enter_field spelled]
      exact ih _ (shape.name key :: met) _ shorter remaining.later
  | @unknown isFirst cs items text quoted named valued after rest lead name foreign colon value later ih =>
      intro fuel met draft enough remaining
      obtain ⟨spare, rfl⟩ := Nat.exists_eq_add_of_lt enough
      have shorter : after.length < text.length + spare := by
        have quote := lead.length_lt
        have before := name.quoted.valued_lt colon
        have taken := value.length_lt
        omega
      simp only [Record.enterMembers, bind, Except.bind, lead.read, if_true, name.read,
        layout.find?_foreign foreign, layout.lenient, Bool.false_eq_true, if_false,
        colon_of_blanks colon, value.skip]
      exact ih _ met draft shorter remaining

/-- When a sequence has ended, the fields that are left keep what the draft has. -/
theorem enterElements_close (closing : Blanks text (']' :: rest)) :
    ∀ (keys : List shape.Key) (index : Nat) (draft : σ),
      (∀ key ∈ keys, layout.required key = false) →
      ∃ after, record.enterElements index (keys.map layout.field) draft text = .ok (draft, after) ∧
        Blanks after (']' :: rest) := by
  intro keys
  induction keys generalizing text with
  | nil =>
      intro index draft optional
      exact ⟨text, rfl, closing⟩
  | cons key keys ih =>
      intro index draft optional
      obtain ⟨after, ended, mark⟩ := ih (.none (']' :: rest)) (index + 1) draft
        fun other member => optional other (List.mem_cons_of_mem _ member)
      refine ⟨after, ?_, mark⟩
      rw [List.map_cons, Record.enterElements, nextElement_close closing]
      change (if layout.required key then _ else _) = _
      rw [optional key List.mem_cons_self]
      exact ended

theorem enterElements_cons {value : shape.Value key} {more : List Char} {index : Nat}
    {later : List (Field α σ)} {draft : σ}
    (atStart : isFirst = decide (index = 0))
    (next : (nextElement isFirst text : Except (Problem α) (Bool × List Char)) =
      .ok (true, skipBlanks more)) (spelled : shape.Spells key value more rest) :
    record.enterElements index (layout.field key :: later) draft text =
      record.enterElements (index + 1) later (layout.put key draft value) rest := by
  subst atStart
  simp only [Record.enterElements, bind, Except.bind, next, if_true,
    layout.enter_field_skipBlanks spelled]

/-- The items are for the first of the keys, and no required key is left out. -/
structure Leading (keys : List shape.Key) (items : shape.Items) : Prop where
  once : keys.Nodup
  inOrder : items.keys <+: keys
  covered : ∀ key ∈ keys, layout.required key = true → key ∈ items.keys

theorem Leading.later {layout : Layout shape record} {keys : List shape.Key}
    {value : shape.Value key} (leading : layout.Leading keys (⟨key, value⟩ :: items)) :
    ∃ others, keys = key :: others ∧ layout.Leading others items := by
  obtain ⟨others, rfl, inOrder⟩ := List.cons_prefix_iff.1 leading.inOrder
  obtain ⟨fresh, once⟩ := List.nodup_cons.1 leading.once
  refine ⟨others, rfl, once, inOrder, fun other member required => ?_⟩
  rcases List.mem_cons.1 (leading.covered other (List.mem_cons_of_mem _ member) required) with
    same | later
  · exact absurd member (same ▸ fresh)
  · exact later

theorem enterElements (elements : shape.ElementsText isFirst items text rest) :
    ∀ (keys : List shape.Key) (index : Nat) (draft : σ), isFirst = decide (index = 0) →
      layout.Leading keys items →
      ∃ after, record.enterElements index (keys.map layout.field) draft text =
        .ok (layout.fill draft items, after) ∧ Blanks after (']' :: rest) := by
  induction elements with
  | close closing =>
      intro keys index draft _ leading
      refine layout.enterElements_close closing keys index draft fun key member => ?_
      exact Bool.eq_false_iff.2 fun required =>
        List.not_mem_nil (leading.covered key member required)
  | @first key value items text after rest spelled later ih =>
      intro keys index draft atStart leading
      obtain ⟨others, rfl, remaining⟩ := leading.later
      obtain ⟨ended, entered, closing⟩ := ih others (index + 1) (layout.put key draft value) rfl remaining
      have next := nextElement_first (α := α) (layout.opens spelled)
      exact ⟨ended, (layout.enterElements_cons atStart next spelled).trans entered, closing⟩
  | @next key value items text more after rest comma spelled later ih =>
      intro keys index draft atStart leading
      obtain ⟨others, rfl, remaining⟩ := leading.later
      obtain ⟨ended, entered, closing⟩ := ih others (index + 1) (layout.put key draft value) rfl remaining
      have next := nextElement_next (α := α) comma (layout.opens spelled)
      exact ⟨ended, (layout.enterElements_cons atStart next spelled).trans entered, closing⟩

include layout in
theorem nodupKeys (written : shape.RecordText items text rest) : items.NodupKeys := by
  cases written with
  | mapping opening members once => exact once
  | sequence opening elements inOrder => exact layout.once.sublist inOrder.sublist

include layout in
theorem membersText_length_lt (members : shape.MembersText isFirst items text rest) :
    rest.length < text.length := by
  induction members with
  | close closing => exact closing.length_le
  | known lead name colon spelled later ih =>
      exact ((ih.trans (layout.shortens spelled)).trans (name.quoted.valued_lt colon)).trans
        lead.length_lt
  | unknown lead name foreign colon value later ih =>
      exact ((ih.trans value.length_lt).trans (name.quoted.valued_lt colon)).trans lead.length_lt

include layout in
theorem elementsText_length_lt (elements : shape.ElementsText isFirst items text rest) :
    rest.length < text.length := by
  induction elements with
  | close closing => exact closing.length_le
  | first spelled later ih => exact ih.trans (layout.shortens spelled)
  | next comma spelled later ih =>
      exact (ih.trans (layout.shortens spelled)).trans (Nat.lt_of_succ_le comma.length_le)

include layout in
theorem recordText_length_lt (written : shape.RecordText items text rest) :
    rest.length < text.length := by
  cases written with
  | mapping opening members once =>
      exact (layout.membersText_length_lt members).trans (Nat.lt_of_succ_le opening.length_le)
  | sequence opening elements inOrder =>
      exact (layout.elementsText_length_lt elements).trans (Nat.lt_of_succ_le opening.length_le)

/-- A record is read to its draft with all that is written put into it. -/
theorem reader_of_recordText (written : shape.RecordText items text rest)
    (covered : ∀ key, layout.required key = true → key ∈ items.keys) :
    record.reader text = .ok (layout.fill record.draft items, rest) := by
  cases written with
  | mapping opening members once =>
      have remaining : layout.Remaining [] items :=
        ⟨once, fun _ _ => List.not_mem_nil, fun key required => .inr (covered key required)⟩
      rw [Record.reader, opening.reach rfl]
      exact layout.enterMembers members _ [] record.draft (Nat.lt_succ_self _) remaining
  | sequence opening elements inOrder =>
      obtain ⟨after, entered, closing⟩ := layout.enterElements elements shape.keys 0 record.draft rfl
        ⟨layout.once, inOrder, fun key _ required => covered key required⟩
      rw [Record.reader, opening.reach rfl]
      have fields : record.fields = shape.keys.map layout.field := layout.fields
      simp only [bind, Except.bind, fields, entered, endSequence_close closing]

end Layout

theorem Shape.RecordText.opens {shape : Shape} {items : shape.Items}
    (written : shape.RecordText items text rest) : Opens text := by
  cases written with
  | mapping opening _ _ | sequence opening _ _ =>
      exact ⟨_, _, opening, rfl, by decide, by decide⟩

/-! ## What every field keeps -/

theorem refuse_ne_ok [Scalar α] {ρ : Type} {expected : String} {c : Char} {value : ρ} :
    (refuse expected c text : Except (Problem α) (ρ × List Char)) ≠ .ok (value, rest) := by
  intro read
  obtain ⟨_, _, read⟩ := bind_eq_ok.1 read
  cases read

def Field.Keeps (field : Field α σ) (P : σ → Prop) : Prop :=
  ∀ {draft s : σ} {text rest : List Char}, P draft → field.enter draft text = .ok (s, rest) → P s

namespace Record

variable {record : Record α σ} {P : σ → Prop} {s : σ}

theorem enterElements_keeps {fields : List (Field α σ)} (keeps : ∀ field ∈ fields, field.Keeps P) :
    ∀ {index : Nat} {draft : σ} {text : List Char}, P draft →
      record.enterElements index fields draft text = .ok (s, rest) → P s := by
  induction fields with
  | nil =>
      intro index draft text before entered
      cases entered
      exact before
  | cons field later ih =>
      intro index draft text before entered
      have laterKeeps : ∀ field ∈ later, field.Keeps P := fun field member =>
        keeps field (List.mem_cons_of_mem _ member)
      rw [enterElements, bind_eq_ok] at entered
      obtain ⟨⟨more, after⟩, _, entered⟩ := entered
      dsimp only at entered
      split at entered
      · obtain ⟨⟨filled, remaining⟩, put, entered⟩ := bind_eq_ok.1 entered
        exact ih laterKeeps (keeps field List.mem_cons_self before put) entered
      · split at entered
        · cases entered
        · exact ih laterKeeps before entered

theorem enterMembers_keeps (keeps : ∀ field ∈ record.fields, field.Keeps P) :
    ∀ {fuel : Nat} {isFirst : Bool} {met : List String} {draft : σ} {text : List Char}, P draft →
      record.enterMembers fuel isFirst met draft text = .ok (s, rest) → P s := by
  intro fuel
  induction fuel with
  | zero =>
      intro isFirst met draft text before entered
      cases entered
  | succ fuel ih =>
      intro isFirst met draft text before entered
      rw [enterMembers, bind_eq_ok] at entered
      obtain ⟨⟨more, after⟩, _, entered⟩ := entered
      dsimp only at entered
      split at entered
      · obtain ⟨⟨name, named⟩, _, entered⟩ := bind_eq_ok.1 entered
        dsimp only at entered
        split at entered
        · rename_i field found
          split at entered
          · cases entered
          · obtain ⟨valued, _, entered⟩ := bind_eq_ok.1 entered
            obtain ⟨⟨filled, remaining⟩, put, entered⟩ := bind_eq_ok.1 entered
            exact ih (keeps field (List.mem_of_find?_eq_some found) before put) entered
        · split at entered
          · cases entered
          · obtain ⟨valued, _, entered⟩ := bind_eq_ok.1 entered
            obtain ⟨skipped, _, entered⟩ := bind_eq_ok.1 entered
            exact ih before entered
      · split at entered
        · cases entered
        · cases entered
          exact before

theorem reader_skipBlanks [Scalar α] (record : Record α σ) (text : List Char) :
    record.reader (skipBlanks text) = record.reader text := by
  simp only [reader, skipBlanks_skipBlanks]

/-- What the draft has and every field keeps, a record has however it was read. -/
theorem reader_keeps [Scalar α] (keeps : ∀ field ∈ record.fields, field.Keeps P) (start : P record.draft)
    (read : record.reader text = .ok (s, rest)) : P s := by
  unfold reader at read
  split at read
  · cases read
  · obtain ⟨⟨filled, after⟩, entered, read⟩ := bind_eq_ok.1 read
    obtain ⟨ended, _, read⟩ := bind_eq_ok.1 read
    cases read
    exact enterElements_keeps keeps start entered
  · exact enterMembers_keeps keeps start read
  · exact absurd read refuse_ne_ok

end Record

/-- What the draft has under every key and every reader yields, a record has under every key. -/
theorem Layout.get_of_read [Scalar α] {shape : Shape} {record : Record α σ}
    (layout : Layout shape record) {Q : (key : shape.Key) → shape.Value key → Prop} {s : σ}
    (start : ∀ key, Q key (layout.get key record.draft))
    (yields : ∀ {key : shape.Key} {value : shape.Value key} {text rest : List Char},
      layout.reader key text = .ok (value, rest) → Q key value)
    (read : record.reader text = .ok (s, rest)) : ∀ key, Q key (layout.get key s) := by
  refine Record.reader_keeps (P := fun s => ∀ key, Q key (layout.get key s)) ?_ start read
  intro field member draft entered text after before enter
  rw [layout.fields] at member
  obtain ⟨key, _, rfl⟩ := List.mem_map.1 member
  obtain ⟨⟨value, _⟩, done, enter⟩ := bind_eq_ok.1 enter
  cases enter
  intro other
  by_cases same : other = key
  · subst same
    rw [layout.get_put]
    exact yields done
  · rw [layout.get_put_ne draft value same]
    exact before other

end Sightline.Json
