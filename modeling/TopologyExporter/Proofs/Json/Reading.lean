import TopologyExporter.Proofs.Json.Number

/-!
# Reading what was written

A decoder reads a value from a text if it gives that value whatever comes after the text, as long as
that does not go on with a number. Where a list or an object is read, what comes after each of its
values is a comma or the closing bracket.

## Results

* `Decoder.Reads.list`    — a list is read if its items are.
* `Decoder.Reads.map`     — so is an object that maps names to values,
* `Decoder.Reads.record`  — and a record whose members are fields of it, each there once.
* `Decoder.Reads.decode`  — a whole text that is read is decoded.
-/

namespace TopologyExporter.Json

-- ---------------------------------------------------------------------------
-- Texts
-- ---------------------------------------------------------------------------

/-- The characters of the items of a list up to its end, from the first item or from a later one. -/
def itemsFrom : Bool → List Json → List Char
  | true, [] => [']']
  | true, item :: rest => item.chars ++ itemChars rest
  | false, items => itemChars items

/-- The characters of the members of an object up to its end, from the first or from a later one. -/
def membersFrom : Bool → List (String × Json) → List Char
  | true, [] => ['\x7d']
  | true, (name, value) :: rest => stringChars name ++ ':' :: (value.chars ++ memberChars rest)
  | false, members => memberChars members

theorem chars_list (items : List Json) : (list items).chars = '[' :: itemsFrom true items := by
  cases items with
  | nil => rw [chars]; rfl
  | cons item rest => rw [chars]; rfl

theorem chars_object (members : List (String × Json)) :
    (object members).chars = '\x7b' :: membersFrom true members := by
  cases members with
  | nil => rw [chars]; rfl
  | cons m rest => rw [chars]; rfl

theorem itemsFrom_nil (isFirst : Bool) : itemsFrom isFirst [] = [']'] := by
  cases isFirst with
  | true => rfl
  | false => rw [itemsFrom, itemChars]

theorem membersFrom_nil (isFirst : Bool) : membersFrom isFirst [] = ['\x7d'] := by
  cases isFirst with
  | true => rfl
  | false => rw [membersFrom, memberChars]

theorem itemsFrom_cons (isFirst : Bool) (item : Json) (rest : List Json) :
    itemsFrom isFirst (item :: rest) =
      (if isFirst then [] else [',']) ++ (item.chars ++ itemsFrom false rest) := by
  cases isFirst with
  | true => rfl
  | false => rw [itemsFrom, itemChars]; rfl

theorem membersFrom_cons (isFirst : Bool) (name : String) (value : Json)
    (rest : List (String × Json)) :
    membersFrom isFirst ((name, value) :: rest) = (if isFirst then [] else [',']) ++
      (stringChars name ++ ':' :: (value.chars ++ membersFrom false rest)) := by
  cases isFirst with
  | true => rfl
  | false => rw [membersFrom, memberChars]; rfl

/-- Whether a character can be the first of a value. -/
def StartsValue (c : Char) : Prop :=
  c.toNat < 0x80 ∧ Decoder.isBlank c.toNat.toUInt8 = false ∧ c ≠ ']' ∧ c ≠ '\x7d'

theorem startsValue_of_isDigit {c : Char} (h : c.isDigit = true) : StartsValue c := by
  have hAscii := Decoder.toNat_lt_of_isDigit h
  refine ⟨hAscii, Decoder.isBlank_of_isDigit ?_, ?_, ?_⟩
  · rw [Text.byteChar_toUInt8 hAscii]
    exact h
  · rintro rfl
    exact absurd h (by decide)
  · rintro rfl
    exact absurd h (by decide)

theorem exists_chars_eq_cons (j : Json) : ∃ c cs, j.chars = c :: cs ∧ StartsValue c := by
  cases j with
  | null => exact ⟨'n', _, by rw [chars], by decide, rfl, by decide, by decide⟩
  | bool b =>
    cases b with
    | true => exact ⟨'t', _, by rw [chars], by decide, rfl, by decide, by decide⟩
    | false => exact ⟨'f', _, by rw [chars], by decide, rfl, by decide, by decide⟩
  | number n =>
    rw [chars]
    cases n with
    | ofNat m =>
      obtain ⟨c, ds, hDigits, hDigit⟩ := Decoder.exists_toDigits_eq m
      exact ⟨c, ds, (Decoder.toList_ofNat m).trans hDigits, startsValue_of_isDigit hDigit⟩
    | negSucc m =>
      exact ⟨'-', _, Decoder.toList_negSucc m, by decide, rfl, by decide, by decide⟩
  | text s => exact ⟨'"', _, by rw [chars, stringChars], by decide, rfl, by decide, by decide⟩
  | list items => exact ⟨'[', _, chars_list items, by decide, rfl, by decide, by decide⟩
  | object members =>
    exact ⟨'\x7b', _, chars_object members, by decide, rfl, by decide, by decide⟩

namespace Decoder

variable {α β μ : Type} {d : Decoder α} {j : Json} {a : α} {rest : Bytes}
  {isFirst : Bool} {fuel : Nat}

/-- A text that starts with a punctuation mark does not go on with a number. -/
theorem endsNumber_ascii {c : Char} (hAscii : c.toNat < 0x80)
    (h : c.isDigit = false ∧ c ≠ '.' ∧ c ≠ 'e' ∧ c ≠ 'E') (cs : List Char)
    (rest : Bytes) :
    EndsNumber (encode (c :: cs) ++ rest) := by
  rw [encode_ascii hAscii]
  intro b hb
  cases hb
  rw [Text.byteChar_toUInt8 hAscii]
  exact h

theorem endsNumber_items (items : List Json) (rest : Bytes) :
    EndsNumber (encode (itemsFrom false items) ++ rest) := by
  cases items with
  | nil =>
    rw [itemsFrom_nil]
    exact endsNumber_ascii (by decide) (by decide) _ rest
  | cons item items =>
    rw [itemsFrom_cons]
    exact endsNumber_ascii (by decide) (by decide) _ rest

theorem endsNumber_members (members : List (String × Json)) (rest : Bytes) :
    EndsNumber (encode (membersFrom false members) ++ rest) := by
  cases members with
  | nil =>
    rw [membersFrom_nil]
    exact endsNumber_ascii (by decide) (by decide) _ rest
  | cons m members =>
    rw [membersFrom_cons]
    exact endsNumber_ascii (by decide) (by decide) _ rest

/-- Whether a decoder gives a value for a text, whatever comes after it that does not go on with a
number. -/
def Reads (d : Decoder α) (j : Json) (a : α) : Prop :=
  ∀ rest, EndsNumber rest → d.run (encode j.chars ++ rest) = .ok (a, rest)

-- ---------------------------------------------------------------------------
-- Single values
-- ---------------------------------------------------------------------------

theorem Reads.fmap {f : α → β} (h : d.Reads j a) : (f <$> d).Reads j (f a) :=
  fun rest hEnds => run_map (h rest hEnds)

/-- A string is read back, whatever it stands for and whatever comes after it. -/
theorem textFor_run (expected s : String) (rest : Bytes) :
    (textFor expected).run (encode (stringChars s) ++ rest) = .ok (s, rest) := by
  rw [stringChars, encode_ascii (by decide), List.cons_append, textFor,
    run_bind (valueStart_run (by decide)), if_pos (by decide), run_bind skip_run]
  exact stringTail_run s rest

theorem reads_text (s : String) : text.Reads (.text s) s := by
  intro rest _
  rw [chars]
  exact textFor_run _ s rest

theorem reads_boolean (b : Bool) : boolean.Reads (.bool b) b := by
  intro rest _
  cases b with
  | true => rw [chars]; rfl
  | false => rw [chars]; rfl

theorem reads_int64 {n : Int} (hLeast : -2 ^ 63 ≤ n) (hMost : n < 2 ^ 63) :
    int64.Reads (.number n) n := by
  intro rest hEnds
  rw [chars]
  exact int64_run hLeast hMost hEnds

/-- The name of a value among those that are known is read as that value. -/
theorem reads_variant {known : List (String × α)} {name : String}
    (h : known.find? (·.1 = name) = some (name, a)) : (variant known).Reads (.text name) a := by
  intro rest _
  have hName := textFor_run "variant identifier" name rest
  have hVariant : (variantName known).run (encode (stringChars name) ++ rest) = .ok (a, rest) := by
    rw [variantName, run_bind hName, h]
    rfl
  rw [chars]
  rw [stringChars, encode_ascii (by decide), List.cons_append] at hVariant ⊢
  rw [variant, run_bind (valueStart_run (by decide))]
  exact hVariant

/-- A string that may be lacking is read back. -/
theorem reads_option_text (s : String) : (option text).Reads (.text s) (some s) := by
  intro rest hEnds
  have hText := reads_text s rest hEnds
  rw [chars, stringChars, encode_ascii (by decide), List.cons_append] at hText ⊢
  rw [option, run_bind (peekSpaced_run (by decide)), if_neg (by decide), run_bind hText]
  rfl

-- ---------------------------------------------------------------------------
-- Lists
-- ---------------------------------------------------------------------------

theorem peekSpaced_starts {c : Char} (h : StartsValue c) (cs : List Char) (rest : Bytes) :
    peekSpaced.run (encode (c :: cs) ++ rest) = .ok (some c, encode (c :: cs) ++ rest) := by
  rw [encode_ascii h.1, List.cons_append, peekSpaced_run h.2.1, Text.byteChar_toUInt8 h.1]

theorem nextItem_nil : (nextItem isFirst).run (encode (itemsFrom isFirst []) ++ rest) =
    .ok (false, encode [']'] ++ rest) := by
  rw [itemsFrom_nil]
  rfl

theorem nextItem_cons (items : List Json) :
    (nextItem isFirst).run (encode (itemsFrom isFirst (j :: items)) ++ rest) =
      .ok (true, encode j.chars ++ (encode (itemsFrom false items) ++ rest)) := by
  obtain ⟨c, cs, hChars, hStarts⟩ := exists_chars_eq_cons j
  have hPeek := peekSpaced_starts hStarts (cs ++ itemsFrom false items) rest
  rw [itemsFrom_cons, ← List.append_assoc (encode j.chars), ← encode_append, hChars]
  cases isFirst with
  | true =>
    rw [nextItem, if_pos rfl, List.nil_append, List.cons_append, run_bind hPeek]
    split
    case h_1 hEq => cases hEq
    case h_2 hEq => exact absurd (Option.some.inj hEq) hStarts.2.2.1
    case h_3 => rfl
  | false =>
    rw [nextItem, if_neg (by decide), List.cons_append, List.nil_append, encode_ascii (by decide),
      List.cons_append, run_bind (peekSpaced_run (by decide))]
    show StateT.run (skip >>= _) _ = _
    rw [run_bind skip_run, List.cons_append, run_bind hPeek]
    split
    case h_1 hEq => exact absurd (Option.some.inj hEq) hStarts.2.2.1
    case h_2 => rfl
    case h_3 hEq => cases hEq

/-- The items of a list are read up to its bracket. There is a byte for every round. -/
theorem items_run {items : List Json} {as : List α} (h : List.Forall₂ d.Reads items as)
    (hFuel : items.length < fuel) :
    (Decoder.items d fuel isFirst).run (encode (itemsFrom isFirst items) ++ rest) =
      .ok (as, encode [']'] ++ rest) := by
  induction h generalizing fuel isFirst with
  | nil =>
    obtain ⟨fuel, rfl⟩ := Nat.exists_eq_succ_of_ne_zero (Nat.ne_of_gt hFuel)
    rw [Decoder.items, run_bind nextItem_nil]
    rfl
  | @cons item a items as hItem _ ih =>
    obtain ⟨fuel, rfl⟩ := Nat.exists_eq_succ_of_ne_zero (Nat.ne_zero_of_lt hFuel)
    rw [List.length_cons, Nat.add_lt_add_iff_right] at hFuel
    rw [Decoder.items, run_bind (nextItem_cons items), if_pos rfl,
      run_bind (hItem _ (endsNumber_items items rest)), run_bind (ih hFuel)]
    rfl

/-- Every item takes a byte. -/
theorem length_le_itemsFrom (isFirst : Bool) (items : List Json) (rest : Bytes) :
    items.length ≤ (encode (itemsFrom isFirst items) ++ rest).length := by
  induction items generalizing isFirst with
  | nil => exact Nat.zero_le _
  | cons item items ih =>
    obtain ⟨c, cs, hChars, hStarts⟩ := exists_chars_eq_cons item
    have hRest := ih false
    rw [itemsFrom_cons, hChars, List.cons_append, encode_append, encode_ascii hStarts.1,
      encode_append]
    simp only [List.length_append, List.length_cons] at hRest ⊢
    omega

/-- **A list is read** if its items are. -/
theorem Reads.list {items : List Json} {as : List α} (h : List.Forall₂ d.Reads items as) :
    (Decoder.list d).Reads (.list items) as := by
  intro rest _
  have hFuel := Nat.lt_succ_of_le (length_le_itemsFrom true items rest)
  rw [chars_list, encode_ascii (by decide), List.cons_append, Decoder.list,
    run_bind (valueStart_run (by decide)), if_pos (by decide), run_bind skip_run, run_bind get_run,
    run_bind (items_run h hFuel)]
  rfl

-- ---------------------------------------------------------------------------
-- Objects
-- ---------------------------------------------------------------------------

theorem nextMember_nil : (nextMember isFirst).run (encode (membersFrom isFirst []) ++ rest) =
    .ok (false, encode ['\x7d'] ++ rest) := by
  rw [membersFrom_nil]
  rfl

theorem nextMember_cons (name : String) (members : List (String × Json)) :
    (nextMember isFirst).run (encode (membersFrom isFirst ((name, j) :: members)) ++ rest) =
      .ok (true, encode (stringChars name) ++
        (encode (':' :: (j.chars ++ membersFrom false members)) ++ rest)) := by
  rw [membersFrom_cons, ← List.append_assoc (encode (stringChars name)), ← encode_append]
  cases isFirst with
  | true =>
    rw [if_pos rfl, List.nil_append, stringChars, List.cons_append, encode_ascii (by decide)]
    rfl
  | false =>
    rw [if_neg (by decide), stringChars, List.cons_append, List.cons_append, List.nil_append,
      encode_ascii (by decide), encode_ascii (by decide)]
    rfl

theorem memberName_run (name : String) (rest : Bytes) :
    memberName.run (encode (stringChars name) ++ rest) = .ok (name, rest) := by
  rw [stringChars, encode_ascii (by decide), List.cons_append, memberName, run_bind skip_run]
  exact stringTail_run name rest

theorem colon_run (cs : List Char) (rest : Bytes) :
    colon.run (encode (':' :: cs) ++ rest) = .ok ((), encode cs ++ rest) := by
  rw [encode_ascii (by decide)]
  rfl

/-- The value of a member is read up to the next member or the end. -/
theorem Reads.member (h : d.Reads j a) (members : List (String × Json)) (rest : Bytes) :
    d.run (encode (j.chars ++ membersFrom false members) ++ rest) =
      .ok (a, encode (membersFrom false members) ++ rest) := by
  rw [encode_append, List.append_assoc]
  exact h _ (endsNumber_members members rest)

/-- Every member takes a byte. -/
theorem length_le_membersFrom (isFirst : Bool) (members : List (String × Json)) (rest : Bytes) :
    members.length ≤ (encode (membersFrom isFirst members) ++ rest).length := by
  induction members generalizing isFirst with
  | nil => exact Nat.zero_le _
  | cons m members ih =>
    have hRest := ih false
    rw [membersFrom_cons, stringChars, List.cons_append, encode_append, encode_ascii (by decide),
      encode_append, encode_ascii (by decide), encode_append m.2.chars]
    simp only [List.length_append, List.length_cons] at hRest ⊢
    omega

/-- Whether a decoder reads the value of an entry from that of a member with its name. -/
def ReadsEntry (d : Decoder α) (m : String × Json) (e : String × α) : Prop :=
  m.1 = e.1 ∧ d.Reads m.2 e.2

/-- The members of an object that maps names to values are read up to its bracket. -/
theorem entries_run {members : List (String × Json)} {es : List (String × α)}
    (h : List.Forall₂ d.ReadsEntry members es) (hFuel : members.length < fuel) :
    (entries d fuel isFirst).run (encode (membersFrom isFirst members) ++ rest) =
      .ok (es, encode ['\x7d'] ++ rest) := by
  induction h generalizing fuel isFirst with
  | nil =>
    obtain ⟨fuel, rfl⟩ := Nat.exists_eq_succ_of_ne_zero (Nat.ne_of_gt hFuel)
    rw [entries, run_bind nextMember_nil]
    rfl
  | @cons m e members es hEntry _ ih =>
    obtain ⟨name, value⟩ := m
    obtain ⟨rfl, hValue⟩ : name = e.1 ∧ d.Reads value e.2 := hEntry
    obtain ⟨fuel, rfl⟩ := Nat.exists_eq_succ_of_ne_zero (Nat.ne_zero_of_lt hFuel)
    rw [List.length_cons, Nat.add_lt_add_iff_right] at hFuel
    rw [entries, run_bind (nextMember_cons e.1 members), if_pos rfl,
      run_bind (memberName_run e.1 _), run_bind (colon_run _ rest),
      run_bind (hValue.member members rest), run_bind (ih hFuel)]
    rfl

/-- **An object that maps names to values is read** if its values are. -/
theorem Reads.map {members : List (String × Json)} {es : List (String × α)}
    (h : List.Forall₂ d.ReadsEntry members es) : (Decoder.map d).Reads (.object members) es := by
  intro rest _
  have hFuel := Nat.lt_succ_of_le (length_le_membersFrom true members rest)
  rw [chars_object, encode_ascii (by decide), List.cons_append, Decoder.map,
    run_bind (valueStart_run (by decide)), if_pos (by decide), run_bind skip_run, run_bind get_run,
    run_bind (entries_run h hFuel)]
  rfl

-- ---------------------------------------------------------------------------
-- Records
-- ---------------------------------------------------------------------------

/-- Whether the field with the name of a member reads a value from it. -/
def ReadsField (fields : List (RecordField μ)) (m : String × Json) (value : μ) : Prop :=
  ∃ field, fields.find? (·.name = m.1) = some field ∧ field.read.Reads m.2 value

/-- The members of a record are read up to its bracket, as long as no field is there twice. -/
theorem members_run {fields : List (RecordField μ)} {ms : List (String × Json)} {values : List μ}
    {seen : List String} (h : List.Forall₂ (ReadsField fields) ms values)
    (hNames : (ms.map Prod.fst).Nodup)
    (hSeen : ∀ m ∈ ms, m.1 ∉ seen) (hFuel : ms.length < fuel) :
    (members fields fuel isFirst seen).run (encode (membersFrom isFirst ms) ++ rest) =
      .ok (values, encode ['\x7d'] ++ rest) := by
  induction h generalizing fuel isFirst seen with
  | nil =>
    obtain ⟨fuel, rfl⟩ := Nat.exists_eq_succ_of_ne_zero (Nat.ne_of_gt hFuel)
    rw [members, run_bind nextMember_nil]
    rfl
  | @cons m value ms values hField _ ih =>
    obtain ⟨name, j⟩ := m
    obtain ⟨field, hFound, hRead⟩ := hField
    obtain ⟨fuel, rfl⟩ := Nat.exists_eq_succ_of_ne_zero (Nat.ne_zero_of_lt hFuel)
    rw [List.length_cons, Nat.add_lt_add_iff_right] at hFuel
    rw [List.map_cons, List.nodup_cons] at hNames
    rw [List.forall_mem_cons] at hSeen
    have hLater : ∀ m ∈ ms, m.1 ∉ name :: seen := by
      intro m hm hMem
      obtain hEq | hMem := List.mem_cons.mp hMem
      · exact hNames.1 (List.mem_map.mpr ⟨m, hm, hEq⟩)
      · exact hSeen.2 m hm hMem
    rw [members, run_bind (nextMember_cons name ms), if_pos rfl,
      run_bind (memberName_run name _), hFound]
    dsimp only
    rw [if_neg (by simpa using hSeen.1), run_bind (colon_run _ rest),
      run_bind (hRead.member ms rest), run_bind (ih hNames.2 hLater hFuel)]
    rfl

/-- **A record is read** if its members are fields of it, each there once, and their values make
it. -/
theorem Reads.record {title : String} {fields : List (RecordField μ)}
    {build : List μ → Except String α} {ms : List (String × Json)} (values : List μ)
    (h : List.Forall₂ (ReadsField fields) ms values)
    (hNames : (ms.map Prod.fst).Nodup) (hBuild : build values = .ok a) :
    (Decoder.record title fields build).Reads (.object ms) a := by
  intro rest _
  have hFuel := Nat.lt_succ_of_le (length_le_membersFrom true ms rest)
  have hNew : ∀ m ∈ ms, m.1 ∉ ([] : List String) := fun m _ => List.not_mem_nil
  rw [chars_object, encode_ascii (by decide), List.cons_append, Decoder.record,
    run_bind (valueStart_run (by decide))]
  show StateT.run (skip >>= _) _ = _
  rw [run_bind skip_run, run_bind get_run, run_bind (members_run h hNames hNew hFuel), hBuild]
  rfl

-- ---------------------------------------------------------------------------
-- Whole texts
-- ---------------------------------------------------------------------------

/-- **A whole text that is read is decoded.** -/
theorem Reads.decode (h : d.Reads j a) : Json.decode d (Text.utf8 j.render) = .ok a := by
  have hRun := h [] (fun _ hb => nomatch hb)
  rw [List.append_nil] at hRun
  have hWhole : (do let a ← d; closeText; pure a : Decoder α).run (encode j.chars) =
      .ok (a, []) := by
    rw [run_bind hRun]
    rfl
  have hValue : (do let a ← d; closeText; pure a : Decoder α).run' (encode j.chars) = .ok a := by
    show Prod.fst <$> (do let a ← d; closeText; pure a : Decoder α).run (encode j.chars) = .ok a
    rw [hWhole]
    rfl
  rw [Json.decode, render, Text.utf8_ofList, ← encode, hValue]

end Decoder

end TopologyExporter.Json
