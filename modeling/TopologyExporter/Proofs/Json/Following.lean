import TopologyExporter.Proofs.Json.Meaning
import TopologyExporter.Proofs.Json.Skipping

/-!
# Decoders — what comes of every spelling

What a decoder makes of a text depends on the value only that the text spells: it either gives what
is read from the value, and stops where the text of the value ends, or refuses.

## Results

* `Decoder.Follows.list`   — a list is read as its items are.
* `Decoder.Follows.record` — a record is read as its fields are, from an object or from a list.
* `Decoder.Follows.decode` — so is a whole text.
-/

namespace TopologyExporter.Json

namespace Decoder

variable {α β μ : Type} {d : Decoder α} {read : Value → Option α} {bytes rest : Bytes}
  {isFirst : Bool} {fuel : Nat}

/-- Whether what comes of a decoder is what is read from the value, whichever of its texts stands
there, after any blanks and before anything that does not go on with a number. -/
def Follows (d : Decoder α) (read : Value → Option α) : Prop :=
  ∀ (v : Value) (bytes : Bytes) (space : Space) (rest : Bytes), Spells v bytes →
    EndsNumber rest →
    d.Yields (space.bytes ++ (bytes ++ rest)) (read v) rest

-- ---------------------------------------------------------------------------
-- More outcomes
-- ---------------------------------------------------------------------------

theorem Yields.bind_pure {f : α → β} {o : Option α} (h : d.Yields bytes o rest) :
    (d >>= fun a => pure (f a)).Yields bytes (o.map f) rest := by
  cases o with
  | none => exact h.bind_none
  | some a => exact .after h rfl

/-- A last step that gives nothing. -/
theorem Yields.close {e : Decoder Unit} {o : Option α} {mid : Bytes} (h : d.Yields bytes o mid)
    (hClose : e.run mid = .ok ((), rest)) :
    (d >>= fun a => e >>= fun _ => pure a).Yields bytes o rest := by
  cases o with
  | none => exact h.bind_none
  | some a => exact .after h (.after hClose rfl)

/-- Whatever comes first, a refusal after it refuses. -/
theorem yields_none_of_bind {f : α → Decoder β} (h : ∀ a bytes, (f a).Yields bytes none rest)
    (bytes : Bytes) :
    (d >>= f).Yields bytes none rest := by
  cases hRun : d.run bytes with
  | error fault => exact ⟨fault, bind_error hRun⟩
  | ok r =>
    obtain ⟨a, mid⟩ := r
    exact .after hRun (h a mid)

theorem refuseFound_yields (expected : String) (bytes : Bytes) :
    (refuseFound expected : Decoder α).Yields bytes none rest :=
  yields_none_of_bind (fun _ _ => refuse_yields _) bytes

theorem refuseMember_yields (cause : Cause) (bytes : Bytes) :
    (refuseMember cause : Decoder α).Yields bytes none rest := by
  refine yields_none_of_bind (fun next bytes => ?_) bytes
  dsimp only
  split
  · exact yields_none_of_bind (fun _ _ => refuse_yields _) bytes
  · exact refuse_yields _

theorem Follows.fmap {f : α → β} (h : d.Follows read) :
    (f <$> d).Follows fun v => (read v).map f :=
  fun v bytes space rest hSpells hEnds => (h v bytes space rest hSpells hEnds).map

-- ---------------------------------------------------------------------------
-- Strings
-- ---------------------------------------------------------------------------

theorem valueStart_space (space : Space) {c : Char} (h : StartsValue c) (rest : Bytes) :
    valueStart.run (space.bytes ++ c.toNat.toUInt8 :: rest) = .ok (c, c.toNat.toUInt8 :: rest) := by
  rw [valueStart, run_bind (peekSpaced_space space h.1 h.2.1 _)]
  rfl

/-- A value is refused if each first character that it can have is. -/
theorem valueStart_refuses {v : Value} {f : Char → Decoder α} (hSpells : Spells v bytes)
    (space : Space) (h : ∀ c bytes, Starts v c → (f c).Yields bytes none rest) :
    (valueStart >>= f).Yields (space.bytes ++ (bytes ++ rest)) none rest := by
  obtain ⟨c, core, rfl, hStarts⟩ := hSpells.starts
  exact .after (valueStart_space space hStarts.value _) (h c _ hStarts)

theorem readText_eq_none {v : Value} (h : ¬∃ s, v = .text s) : readText v = none := by
  cases v with
  | text s => exact absurd ⟨s, rfl⟩ h
  | _ => rfl

/-- **A string is read as the text that it stands for**, and nothing else is read as a text. -/
theorem follows_text (expected : String) : (textFor expected).Follows readText := by
  intro v bytes space rest hSpells _
  by_cases hText : ∃ s, v = .text s
  · obtain ⟨s, rfl⟩ := hText
    obtain ⟨pieces, rfl, rfl⟩ := hSpells.text_eq
    rw [encode_quoted, List.cons_append, textFor]
    refine .after (valueStart_space space (starts_text none).value _) ?_
    rw [if_pos rfl]
    exact .after skip_run (stringTail_yields pieces rest)
  · rw [readText_eq_none hText, textFor]
    refine valueStart_refuses hSpells space fun c _ hStarts => ?_
    rw [if_neg fun hQuote => hText (hStarts.text hQuote)]
    exact refuseFound_yields _ _

-- ---------------------------------------------------------------------------
-- Lists
-- ---------------------------------------------------------------------------

/-- Every part takes a byte. -/
theorem length_le_partsFrom {closing : Char} (hAscii : closing.toNat < 0x80) (isFirst : Bool)
    (parts : List Bytes) :
    parts.length + (if isFirst then 0 else 1) ≤ (partsFrom closing isFirst parts).length := by
  induction parts generalizing isFirst with
  | nil =>
    rw [partsFrom, encode_ascii hAscii, List.length_cons, List.length_nil]
    split <;> omega
  | cons part parts ih =>
    have hRest := ih false
    rw [if_neg (by decide)] at hRest
    cases isFirst with
    | true =>
      simp only [partsFrom, List.length_append, List.length_cons, if_true, List.length_nil]
      omega
    | false =>
      have hComma : (encode [',']).length = 1 := rfl
      simp only [partsFrom, List.length_append, List.length_cons, Bool.false_eq_true,
        if_false, hComma]
      omega

/-- There is a round for every part, and one more for the bracket. -/
theorem length_lt_partsFrom {closing : Char} (hAscii : closing.toNat < 0x80) (space : Space)
    (parts : List Bytes) (rest : Bytes) :
    parts.length < (space.bytes ++ (partsFrom closing true parts ++ rest)).length + 1 := by
  have hParts := length_le_partsFrom hAscii true parts
  rw [if_pos rfl] at hParts
  rw [List.length_append, List.length_append]
  omega

theorem peekSpaced_item (space : Space) {i : Item} (h : Spells i.value i.bytes) (more : Bytes) :
    ∃ c, StartsValue c ∧ peekSpaced.run (space.bytes ++ (i.text ++ more)) =
      .ok (some c, i.bytes ++ (i.after.bytes ++ more)) := by
  obtain ⟨c, core, hBytes, hStarts⟩ := h.starts
  have hPeek := peekSpaced_space (space.append i.before) hStarts.value.1 hStarts.value.2.1
    (core ++ (i.after.bytes ++ more))
  refine ⟨c, hStarts.value, ?_⟩
  rw [Item.text, hBytes, List.append_assoc, List.append_assoc, ← List.append_assoc space.bytes]
  exact hPeek

theorem nextItem_end (space : Space) (rest : Bytes) :
    (nextItem isFirst).run (space.bytes ++ (partsFrom ']' isFirst [] ++ rest)) =
      .ok (false, encode [']'] ++ rest) := by
  rw [partsFrom, encode_ascii (by decide), List.cons_append, nextItem,
    run_bind (peekSpaced_space space (by decide) rfl _)]
  rfl

theorem nextItem_part (space : Space) {i : Item} (h : Spells i.value i.bytes) (parts : List Bytes)
    (rest : Bytes) :
    (nextItem isFirst).run (space.bytes ++ (partsFrom ']' isFirst (i.text :: parts) ++ rest)) =
      .ok (true, i.bytes ++ (i.after.bytes ++ (partsFrom ']' false parts ++ rest))) := by
  cases isFirst with
  | true =>
    obtain ⟨c, hStarts, hPeek⟩ := peekSpaced_item space h (partsFrom ']' false parts ++ rest)
    rw [partsFrom, if_pos rfl, List.nil_append, List.append_assoc, nextItem, run_bind hPeek]
    split
    case h_1 hEq => cases hEq
    case h_2 hEq => exact absurd (Option.some.inj hEq) hStarts.2.2.1
    case h_3 => rfl
  | false =>
    obtain ⟨c, hStarts, hPeek⟩ := peekSpaced_item .none h (partsFrom ']' false parts ++ rest)
    rw [partsFrom, if_neg (by decide), encode_ascii (by decide), List.append_assoc,
      List.append_assoc, List.cons_append, nextItem,
      run_bind (peekSpaced_space space (by decide) rfl _)]
    show StateT.run (skip >>= _) _ = _
    rw [run_bind skip_run]
    refine (run_bind hPeek).trans ?_
    split
    case h_1 hEq => exact absurd (Option.some.inj hEq) hStarts.2.2.1
    case h_2 => rfl
    case h_3 hEq => cases hEq

/-- The value of an item is read up to the next item or the end. -/
theorem Follows.item (h : d.Follows read) {i : Item} (hSpells : Spells i.value i.bytes)
    (parts : List Bytes) (rest : Bytes) :
    d.Yields (i.bytes ++ (i.after.bytes ++ (partsFrom ']' false parts ++ rest))) (read i.value)
      (i.after.bytes ++ (partsFrom ']' false parts ++ rest)) :=
  h i.value i.bytes .none _ hSpells (endsNumber_space i.after (endsNumber_frame .list parts rest))

/-- The items of a list are read up to its bracket. There is a byte for every round. -/
theorem items_yields (h : d.Follows read) {items : List Item}
    (hItems : ∀ i ∈ items, Spells i.value i.bytes) (hFuel : items.length < fuel) (space : Space)
    (rest : Bytes) :
    (Decoder.items d fuel isFirst).Yields
      (space.bytes ++ (partsFrom ']' isFirst (items.map Item.text) ++ rest))
      ((items.map Item.value).mapM read) (encode [']'] ++ rest) := by
  induction items generalizing fuel isFirst space with
  | nil =>
    obtain ⟨fuel, rfl⟩ := Nat.exists_eq_succ_of_ne_zero (Nat.ne_of_gt hFuel)
    rw [Decoder.items]
    exact .after (nextItem_end space rest) rfl
  | cons i items ih =>
    obtain ⟨fuel, rfl⟩ := Nat.exists_eq_succ_of_ne_zero (Nat.ne_zero_of_lt hFuel)
    rw [List.length_cons, Nat.add_lt_add_iff_right] at hFuel
    rw [List.forall_mem_cons] at hItems
    have hRead : ((i :: items).map Item.value).mapM read =
        (read i.value).bind fun a => ((items.map Item.value).mapM read).map (a :: ·) := by
      rw [List.map_cons, List.mapM_cons]
      simp only [bind_pure_comp]
      rfl
    rw [hRead, List.map_cons, Decoder.items]
    refine .after (nextItem_part space hItems.1 _ rest) ?_
    rw [if_pos rfl]
    exact (h.item hItems.1 _ rest).bind fun _ _ => (ih hItems.2 hFuel i.after).bind_pure

theorem closeList_run (rest : Bytes) : closeList.run (encode [']'] ++ rest) = .ok ((), rest) := rfl

theorem readList_eq_none {v : Value} (h : ¬∃ items, v = .list items) :
    readList read v = none := by
  cases v with
  | list items => exact absurd ⟨items, rfl⟩ h
  | _ => rfl

/-- **A list is read as its items are**, and nothing else is read as a list. -/
theorem Follows.list (h : d.Follows read) : (Decoder.list d).Follows (readList read) := by
  intro v bytes space rest hSpells _
  by_cases hList : ∃ items, v = .list items
  · obtain ⟨_, rfl⟩ := hList
    obtain ⟨blanks, items, rfl, hItems, rfl⟩ := hSpells.list_eq
    have hFuel := length_lt_partsFrom (by decide : ']'.toNat < 0x80) blanks
      (items.map Item.text) rest
    rw [List.length_map] at hFuel
    rw [List.cons_append, List.append_assoc, Decoder.list]
    refine .after (valueStart_space space (starts_list []).value _) ?_
    rw [if_pos rfl]
    exact .after skip_run
      (.after get_run ((items_yields h hItems hFuel blanks rest).close (closeList_run rest)))
  · rw [readList_eq_none hList, Decoder.list]
    refine valueStart_refuses hSpells space fun c _ hStarts => ?_
    rw [if_neg fun hBracket => hList (hStarts.list hBracket)]
    exact refuseFound_yields _ _

-- ---------------------------------------------------------------------------
-- Objects
-- ---------------------------------------------------------------------------

theorem nextMember_end (space : Space) (rest : Bytes) :
    (nextMember isFirst).run (space.bytes ++ (partsFrom '\x7d' isFirst [] ++ rest)) =
      .ok (false, encode ['\x7d'] ++ rest) := by
  rw [partsFrom, encode_ascii (by decide), List.cons_append, nextMember,
    run_bind (peekSpaced_space space (by decide) rfl _)]
  rfl

theorem nextMember_part (space : Space) (m : Member) (parts : List Bytes) (rest : Bytes) :
    (nextMember isFirst).run (space.bytes ++ (partsFrom '\x7d' isFirst (m.text :: parts) ++ rest)) =
      .ok (true, m.head ++ (m.item.text ++ (partsFrom '\x7d' false parts ++ rest))) := by
  cases isFirst with
  | true =>
    have hPeek := peekSpaced_space (space.append m.before) (starts_text none).value.1
      (starts_text none).value.2.1
      (encode (m.name.flatMap Piece.chars ++ ['"']) ++ (m.after.bytes ++ (encode [':'] ++
        (m.item.text ++ (partsFrom '\x7d' false parts ++ rest)))))
    rw [partsFrom, if_pos rfl, List.nil_append, Member.text, Member.head, encode_quoted]
    simp only [List.append_assoc, List.cons_append]
    rw [← List.append_assoc space.bytes, nextMember]
    exact run_bind hPeek
  | false =>
    have hPeek := peekSpaced_space m.before (starts_text none).value.1 (starts_text none).value.2.1
      (encode (m.name.flatMap Piece.chars ++ ['"']) ++ (m.after.bytes ++ (encode [':'] ++
        (m.item.text ++ (partsFrom '\x7d' false parts ++ rest)))))
    rw [partsFrom, if_neg (by decide), encode_ascii (by decide), List.append_assoc,
      List.cons_append, nextMember, run_bind (peekSpaced_space space (by decide) rfl _),
      Member.text, Member.head, encode_quoted]
    simp only [List.append_assoc, List.cons_append]
    exact (run_bind skip_run).trans (run_bind hPeek)

theorem memberName_yields (pieces : List Piece) (rest : Bytes) :
    memberName.Yields (encode (quoted pieces) ++ rest) (text? pieces) rest := by
  rw [encode_quoted, List.cons_append, memberName]
  exact .after skip_run (stringTail_yields pieces rest)

theorem colon_space (space : Space) (rest : Bytes) :
    colon.run (space.bytes ++ (encode [':'] ++ rest)) = .ok ((), rest) := by
  rw [encode_ascii (by decide), List.cons_append, colon,
    run_bind (peekSpaced_space space (by decide) rfl _)]
  rfl

/-- The value between blanks is read. -/
theorem Follows.text (h : d.Follows read) {i : Item} (hSpells : Spells i.value i.bytes)
    {more : Bytes} (hEnds : EndsNumber more) :
    d.Yields (i.text ++ more) (read i.value) (i.after.bytes ++ more) := by
  rw [Item.text, List.append_assoc, List.append_assoc]
  exact h i.value i.bytes i.before _ hSpells (endsNumber_space i.after hEnds)

-- ---------------------------------------------------------------------------
-- Records
-- ---------------------------------------------------------------------------

/-- Whether a field of a record is read as it is said to be. -/
structure FieldFollows (field : RecordField μ) (reader : FieldReader μ) : Prop where
  name    : field.name = reader.name
  mayLack : field.mayLack = reader.mayLack
  read    : field.read.Follows reader.read

section Records

variable {fields : List (RecordField μ)} {readers : List (FieldReader μ)}

theorem find?_follows (h : List.Forall₂ FieldFollows fields readers) (name : String) :
    Option.Rel FieldFollows (fields.find? (·.name = name)) (readers.find? (·.name = name)) := by
  induction h with
  | nil => exact .none
  | @cons field reader fields readers hField _ ih =>
    rw [List.find?_cons, List.find?_cons, hField.name]
    split
    · exact .some hField
    · exact ih

/-- **The members of a record are read up to its bracket.** There is a byte for every round. -/
theorem members_yields (h : List.Forall₂ FieldFollows fields readers) {members : List Member}
    (hMembers : ∀ m ∈ members, Spells m.item.value m.item.bytes) {seen : List String}
    (hFuel : members.length < fuel)
    (space : Space) (rest : Bytes) :
    (Decoder.members fields fuel isFirst seen).Yields
      (space.bytes ++ (partsFrom '\x7d' isFirst (members.map Member.text) ++ rest))
      (readMembers readers seen (members.map Member.value)) (encode ['\x7d'] ++ rest) := by
  induction members generalizing fuel isFirst seen space with
  | nil =>
    obtain ⟨fuel, rfl⟩ := Nat.exists_eq_succ_of_ne_zero (Nat.ne_of_gt hFuel)
    rw [Decoder.members]
    exact .after (nextMember_end space rest) rfl
  | cons m members ih =>
    obtain ⟨fuel, rfl⟩ := Nat.exists_eq_succ_of_ne_zero (Nat.ne_zero_of_lt hFuel)
    rw [List.length_cons, Nat.add_lt_add_iff_right] at hFuel
    rw [List.forall_mem_cons] at hMembers
    have hEnds := endsNumber_frame .object (members.map Member.text) rest
    have hName := memberName_yields m.name (m.after.bytes ++ (encode [':'] ++
      (m.item.text ++ (partsFrom '\x7d' false (members.map Member.text) ++ rest))))
    rw [List.map_cons, List.map_cons, Decoder.members, Member.value]
    refine .after (nextMember_part space m _ rest) ?_
    rw [if_pos rfl, Member.head, List.append_assoc, List.append_assoc]
    cases hText : text? m.name with
    | none =>
      rw [hText] at hName
      rw [readMembers]
      exact hName.bind_none
    | some name =>
      rw [hText] at hName
      have hField := find?_follows h name
      rw [readMembers]
      refine .after hName ?_
      generalize fields.find? (·.name = name) = field at hField
      generalize readers.find? (·.name = name) = reader at hField
      cases hField with
      | none =>
        -- nobody asked for this member
        refine .after (colon_space m.after _) ?_
        have hSkip := hMembers.1.skipValue_run m.item.before (endsNumber_space m.item.after hEnds)
        rw [Item.text, List.append_assoc, List.append_assoc]
        exact .after hSkip (ih hMembers.2 hFuel m.item.after)
      | @some field reader hField =>
        dsimp only
        by_cases hSeen : name ∈ seen
        · rw [if_pos (List.contains_iff_mem.mpr hSeen), if_pos hSeen]
          exact refuseMember_yields _ _
        · rw [if_neg (mt List.contains_iff_mem.mp hSeen), if_neg hSeen]
          refine .after (colon_space m.after _) ?_
          exact (hField.read.text hMembers.1 hEnds).bind fun _ _ =>
            (ih hMembers.2 hFuel m.item.after).bind_pure

theorem closeList_space (space : Space) (rest : Bytes) :
    closeList.run (space.bytes ++ (partsFrom ']' isFirst [] ++ rest)) = .ok ((), rest) := by
  rw [partsFrom, encode_ascii (by decide), List.cons_append, closeList,
    run_bind (peekSpaced_space space (by decide) rfl _)]
  rfl

/-- A list does not close before an item. -/
theorem closeList_part (space : Space) {i : Item} (h : Spells i.value i.bytes) (parts : List Bytes)
    (rest : Bytes) :
    closeList.Yields (space.bytes ++ (partsFrom ']' isFirst (i.text :: parts) ++ rest))
      none rest := by
  cases isFirst with
  | true =>
    obtain ⟨c, hStarts, hPeek⟩ := peekSpaced_item space h (partsFrom ']' false parts ++ rest)
    rw [partsFrom, if_pos rfl, List.nil_append, List.append_assoc, closeList]
    refine .after hPeek ?_
    split
    case h_1 hEq => exact absurd (Option.some.inj hEq) hStarts.2.2.1
    case h_2 =>
      refine yields_none_of_bind (fun _ _ => yields_none_of_bind (fun _ _ => ?_) _) _
      split <;> exact refuseNext_yields _
    case h_3 => exact refuseNext_yields _
    case h_4 hEq => cases hEq
  | false =>
    rw [partsFrom, if_neg (by decide), encode_ascii (by decide), List.append_assoc,
      List.cons_append, closeList]
    refine .after (peekSpaced_space space (by decide) rfl _) ?_
    refine yields_none_of_bind (fun _ _ => yields_none_of_bind (fun _ _ => ?_) _) _
    split <;> exact refuseNext_yields _

/-- **The fields of a record are read from a list**, if that has no items besides. -/
theorem listedFields_yields (h : List.Forall₂ FieldFollows fields readers) {expected : String}
    {items : List Item} (hItems : ∀ i ∈ items, Spells i.value i.bytes)
    {f : List μ → Decoder β} {g : List μ → Option β}
    (hNext : ∀ values, (f values).Yields rest (g values) rest) (length : Nat) (space : Space) :
    (do
      let values ← listedFields expected length fields
      closeList
      f values : Decoder β).Yields
        (space.bytes ++ (partsFrom ']' (length = 0) (items.map Item.text) ++ rest))
      ((readListed readers (items.map Item.value)).bind g) rest := by
  induction h generalizing items f g length space with
  | nil =>
    rw [listedFields]
    cases items with
    | nil => exact .after (run_pure []) (.after (closeList_space space rest) (hNext []))
    | cons i items =>
      rw [List.forall_mem_cons] at hItems
      exact .after (run_pure []) (closeList_part space hItems.1 _ rest).bind_none
  | @cons field reader fields readers hField _ ih =>
    rw [listedFields, bind_assoc]
    cases items with
    | nil =>
      refine .after (nextItem_end space rest) ?_
      rw [if_neg (by decide), List.map_nil, readListed, hField.mayLack]
      by_cases hLack : reader.mayLack = true
      · rw [if_pos hLack, if_pos hLack]
        exact ih (List.forall_mem_nil _) hNext length .none
      · have hRefused (cause : Cause) :
            (skip >>= fun _ => refuse cause : Decoder (List μ)).Yields
              (encode [']'] ++ rest) none rest :=
          yields_none_of_bind (fun _ _ => refuse_yields _) _
        rw [if_neg hLack, if_neg hLack]
        exact (hRefused _).bind_none
    | cons i items =>
      rw [List.forall_mem_cons] at hItems
      rw [List.map_cons, List.map_cons, readListed, Option.bind_assoc]
      refine .after (nextItem_part space hItems.1 _ rest) ?_
      rw [if_pos rfl, bind_assoc]
      refine (hField.read.item hItems.1 _ rest).bind fun value _ => ?_
      rw [bind_assoc, Option.bind_map]
      simp only [pure_bind]
      exact ih hItems.2 (fun values => hNext (value :: values)) (length + 1) i.after

variable {title : String} {build : List μ → Except String α}

theorem readRecord_eq_none {v : Value} (hList : ¬∃ items, v = .list items)
    (hObject : ¬∃ members, v = .object members) :
    readRecord readers build v = none := by
  cases v with
  | list items => exact absurd ⟨items, rfl⟩ hList
  | object members => exact absurd ⟨members, rfl⟩ hObject
  | _ => rfl

/-- **A record is read as its fields are**, from an object or from a list of them, and nothing else
is read as a record. -/
theorem Follows.record (h : List.Forall₂ FieldFollows fields readers) :
    (Decoder.record title fields build).Follows (readRecord readers build) := by
  intro v bytes space rest hSpells _
  by_cases hList : ∃ items, v = .list items
  · obtain ⟨_, rfl⟩ := hList
    obtain ⟨blanks, items, rfl, hItems, rfl⟩ := hSpells.list_eq
    rw [List.cons_append, List.append_assoc, Decoder.record]
    refine .after (valueStart_space space (starts_list []).value _) ?_
    refine .after skip_run (listedFields_yields h hItems (fun values => ?_) 0 blanks)
    cases build values with
    | ok a => exact rfl
    | error name => exact refuse_yields _
  · by_cases hObject : ∃ members, v = .object members
    · obtain ⟨_, rfl⟩ := hObject
      obtain ⟨blanks, members, rfl, hMembers, rfl⟩ := hSpells.object_eq
      have hFuel := length_lt_partsFrom (by decide : '\x7d'.toNat < 0x80) blanks
        (members.map Member.text) rest
      rw [List.length_map] at hFuel
      rw [List.cons_append, List.append_assoc, Decoder.record]
      refine .after (valueStart_space space (starts_object []).value _) ?_
      refine .after skip_run
        (.after get_run ((members_yields h hMembers hFuel blanks rest).bind fun values _ => ?_))
      cases build values with
      | ok a => exact rfl
      | error name => exact refuseMember_yields _ _
    · rw [readRecord_eq_none hList hObject, Decoder.record]
      refine valueStart_refuses hSpells space fun c _ hStarts => ?_
      split
      case h_1 => exact absurd (hStarts.list rfl) hList
      case h_2 => exact absurd (hStarts.object rfl) hObject
      case h_3 => exact refuseFound_yields _ _

end Records

-- ---------------------------------------------------------------------------
-- Whole texts
-- ---------------------------------------------------------------------------

theorem closeText_space (space : Space) : closeText.run space.bytes = .ok ((), []) := by
  have hDrop : space.bytes.dropWhile isBlank = [] := by
    rw [← List.append_nil space.bytes, List.dropWhile_append_of_pos (isBlank_of_mem_space space),
      List.dropWhile_nil]
  have hPeek : peekSpaced.run space.bytes = .ok (none, []) := by
    show peek.run (space.bytes.dropWhile isBlank) = _
    rw [hDrop]
    rfl
  rw [closeText, run_bind hPeek]
  rfl

/-- **A whole text is read as its value is.** -/
theorem Follows.decode (h : d.Follows read) {v : Value} {text : Bytes}
    (hText : v.IsSpelledBy text) :
    (Json.decode d text).toOption = read v := by
  obtain ⟨i, rfl, hSpells, rfl⟩ := hText
  have hEnds : EndsNumber [] := fun _ hb => nomatch hb
  have hRun := h.text hSpells hEnds
  rw [List.append_nil, List.append_nil] at hRun
  have hWhole := hRun.close (closeText_space i.after)
  rw [Json.decode, StateT.run'_eq]
  cases hRead : read i.value with
  | none =>
    rw [hRead] at hWhole
    obtain ⟨fault, hFault⟩ := hWhole
    rw [hFault]
    rfl
  | some a =>
    rw [hRead, yields_some] at hWhole
    rw [hWhole]
    rfl

end Decoder

end TopologyExporter.Json
