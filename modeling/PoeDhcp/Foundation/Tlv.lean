import PoeDhcp.Foundation.Words

namespace Foundation

/-! Tag-length-value areas: fields with a one-byte length, single padding bytes
and a stop byte that ends the area. -/

structure Framing where
  pad : Byte
  stop : Byte
  pad_ne_stop : pad ≠ stop

namespace Framing

variable {F : Framing}

structure Field (F : Framing) where
  tag : Byte
  value : List Byte
  tag_ne_pad : tag ≠ F.pad
  tag_ne_stop : tag ≠ F.stop
  length_lt : value.length < 256

/-- A byte that can stand for a field. -/
structure IsTag (F : Framing) (tag : Byte) : Prop where
  ne_pad : tag ≠ F.pad
  ne_stop : tag ≠ F.stop

theorem Field.isTag (content : Field F) : F.IsTag content.tag :=
  ⟨content.tag_ne_pad, content.tag_ne_stop⟩

theorem Field.toNat_length (content : Field F) :
    (BitVec.ofNat 8 content.value.length).toNat = content.value.length := by
  simpa using content.length_lt

inductive Item (F : Framing)
  | padding
  | field (content : Field F)

namespace Item

def encode : Item F → List Byte
  | .padding => [F.pad]
  | .field content =>
      content.tag :: BitVec.ofNat 8 content.value.length :: content.value

def tag? : Item F → Option Byte
  | .padding => none
  | .field content => some content.tag

end Item

def encode (items : List (Item F)) : List Byte :=
  items.flatMap Item.encode

@[simp] theorem encode_nil : encode ([] : List (Item F)) = [] := rfl

@[simp] theorem encode_cons (item : Item F) (items : List (Item F)) :
    encode (item :: items) = item.encode ++ encode items := rfl

theorem encode_append (first second : List (Item F)) :
    encode (first ++ second) = encode first ++ encode second := by
  simp only [encode, List.flatMap_append]

def firstField (tag : Byte) : List (Item F) → Option (Field F)
  | [] => none
  | .padding :: rest => firstField tag rest
  | .field content :: rest =>
      if content.tag = tag then some content else firstField tag rest

def Avoids (tag : Byte) (items : List (Item F)) : Prop :=
  ∀ item ∈ items, item.tag? ≠ some tag

theorem avoids_cons {tag : Byte} {item : Item F} {items : List (Item F)} :
    Avoids tag (item :: items) ↔ item.tag? ≠ some tag ∧ Avoids tag items := by
  simp [Avoids]

theorem avoids_iff_notMem {tag : Byte} {items : List (Item F)} :
    Avoids tag items ↔ tag ∉ items.filterMap Item.tag? := by
  simp only [Avoids, List.mem_filterMap, not_exists, not_and]

theorem firstField_eq_none {tag : Byte} {items : List (Item F)} :
    firstField tag items = none ↔ Avoids tag items := by
  induction items with
  | nil => simp [firstField, Avoids]
  | cons item rest ih =>
      cases item with
      | padding => simpa [firstField, Avoids, Item.tag?] using ih
      | field content =>
          by_cases equality : content.tag = tag
          · simp [firstField, Avoids, Item.tag?, equality]
          · simpa [firstField, Avoids, Item.tag?, equality] using ih

theorem firstField_eq_some {tag : Byte} {items : List (Item F)}
    {content : Field F} (found : firstField tag items = some content) :
    content.tag = tag ∧ ∃ before after,
      items = before ++ .field content :: after ∧ Avoids tag before := by
  induction items with
  | nil => cases found
  | cons item rest ih =>
      cases item with
      | padding =>
          obtain ⟨same, before, after, rfl, avoids⟩ := ih found
          exact ⟨same, .padding :: before, after, rfl,
            avoids_cons.mpr ⟨by simp [Item.tag?], avoids⟩⟩
      | field other =>
          by_cases equality : other.tag = tag
          · simp only [firstField, equality, if_true, Option.some.injEq]
              at found
            subst found
            exact ⟨equality, [], rest, rfl, by simp [Avoids]⟩
          · simp only [firstField, equality, if_false] at found
            obtain ⟨same, before, after, rfl, avoids⟩ := ih found
            exact ⟨same, .field other :: before, after, rfl,
              avoids_cons.mpr ⟨by simpa [Item.tag?] using equality, avoids⟩⟩

theorem before_unique {tag : Byte} {before before' after after' : List (Item F)}
    {content content' : Field F} (avoids : Avoids tag before)
    (avoids' : Avoids tag before') (same : content.tag = tag)
    (same' : content'.tag = tag)
    (split : before ++ .field content :: after =
      before' ++ .field content' :: after') : before = before' := by
  have hit : (Item.field content).tag? = some tag := congrArg some same
  have hit' : (Item.field content').tag? = some tag := congrArg some same'
  induction before generalizing before' with
  | nil =>
      cases before' with
      | nil => rfl
      | cons item before' =>
          rw [List.nil_append, List.cons_append, List.cons.injEq] at split
          rw [split.1] at hit
          exact absurd hit (avoids_cons.mp avoids').1
  | cons item before ih =>
      cases before' with
      | nil =>
          rw [List.nil_append, List.cons_append, List.cons.injEq] at split
          rw [← split.1] at hit'
          exact absurd hit' (avoids_cons.mp avoids).1
      | cons item' before' =>
          rw [List.cons_append, List.cons_append, List.cons.injEq] at split
          obtain ⟨rfl, split⟩ := split
          rw [ih (avoids_cons.mp avoids).2 (avoids_cons.mp avoids').2 split]

theorem firstField_append {tag : Byte} {before : List (Item F)}
    (avoids : Avoids tag before) (rest : List (Item F)) :
    firstField tag (before ++ rest) = firstField tag rest := by
  induction before with
  | nil => rfl
  | cons item before ih =>
      obtain ⟨first, later⟩ := avoids_cons.mp avoids
      cases item with
      | padding => exact ih later
      | field content =>
          have different : content.tag ≠ tag := by
            simpa [Item.tag?] using first
          rw [List.cons_append, firstField, if_neg different, ih later]

/-- The place a walk over an area finds for a tag: where the value of the first
field with that tag starts and the length its length byte announces. -/
structure Place where
  offset : Nat
  length : Nat
deriving DecidableEq

def Place.later (place : Place) (distance : Nat) : Place :=
  ⟨distance + place.offset, place.length⟩

theorem Place.later_later (place : Place) (first second : Nat) :
    (place.later first).later second = place.later (second + first) := by
  simp only [later, Nat.add_assoc]

def locate (F : Framing) (tag : Byte) : List Byte → Option Place
  | [] => none
  | head :: rest =>
      if head = F.pad then
        (locate F tag rest).map (·.later 1)
      else if head = F.stop then
        none
      else
        match rest with
        | [] => none
        | length :: body =>
            if head = tag then
              some ⟨2, length.toNat⟩
            else
              (locate F tag (body.drop length.toNat)).map
                (·.later (2 + length.toNat))
termination_by area => area.length
decreasing_by all_goals simp; try omega

/-! Walking over an encoded prefix. -/

theorem locate_padding (tag : Byte) (rest : List Byte) :
    locate F tag (F.pad :: rest) =
      (locate F tag rest).map (·.later 1) := by
  rw [locate.eq_def]
  simp

theorem locate_stop (tag : Byte) (rest : List Byte) :
    locate F tag (F.stop :: rest) = none := by
  rw [locate.eq_def]
  simp [F.pad_ne_stop.symm]

theorem locate_hit {tag : Byte} (isTag : F.IsTag tag) (length : Byte)
    (body : List Byte) :
    locate F tag (tag :: length :: body) =
      some ⟨2, length.toNat⟩ := by
  rw [locate, if_neg isTag.ne_pad, if_neg isTag.ne_stop]
  simp

theorem locate_skip {tag head : Byte} (isTag : F.IsTag head)
    (htag : head ≠ tag) (length : Byte) (body : List Byte) :
    locate F tag (head :: length :: body) =
      (locate F tag (body.drop length.toNat)).map
        (·.later (2 + length.toNat)) := by
  rw [locate, if_neg isTag.ne_pad, if_neg isTag.ne_stop]
  simp [htag]

theorem locate_pad (area : List Byte) : locate F F.pad area = none := by
  induction area using locate.induct F F.pad with
  | case1 => rw [locate]
  | case2 rest ih =>
      rw [locate_padding, ih]
      rfl
  | case3 rest hne => exact locate_stop _ rest
  | case4 head hheadPad hheadStop => simp [locate, hheadPad, hheadStop]
  | case5 length body hheadPad hheadStop => exact absurd rfl hheadPad
  | case6 head hheadPad hheadStop length body htag ih =>
      rw [locate_skip ⟨hheadPad, hheadStop⟩ htag, ih]
      rfl

theorem locate_encode_append {tag : Byte} {items : List (Item F)}
    (avoids : Avoids tag items) (rest : List Byte) :
    locate F tag (encode items ++ rest) =
      (locate F tag rest).map (·.later (encode items).length) := by
  induction items with
  | nil => simp [Place.later]
  | cons item items ih =>
      obtain ⟨first, later⟩ := avoids_cons.mp avoids
      have tail := ih later
      cases item with
      | padding =>
          simp only [encode_cons, Item.encode, List.cons_append,
            List.nil_append, locate_padding, tail, Option.map_map]
          congr 1
          funext place
          simp [Place.later, Nat.add_comm, Nat.add_left_comm]
      | field content =>
          have htag : content.tag ≠ tag := by
            simpa [Item.tag?] using first
          simp only [encode_cons, Item.encode, List.cons_append,
            List.append_assoc]
          rw [locate_skip content.isTag htag, content.toNat_length,
            List.drop_left, tail, Option.map_map]
          congr 1
          funext place
          simp only [Function.comp, Place.later_later]
          congr 1
          simp
          omega

/-- A walk finds a tag in a well-formed area exactly at its first field. -/
theorem locate_encode_of_firstField {tag : Byte}
    {items : List (Item F)} {content : Field F}
    (found : firstField tag items = some content) (rest : List Byte) :
    ∃ place, locate F tag (encode items ++ rest) = some place ∧
      place.length = content.value.length ∧
      ((encode items ++ rest).drop place.offset).take place.length =
        content.value ∧
      place.offset + place.length ≤ (encode items).length := by
  obtain ⟨rfl, before, after, rfl, avoids⟩ := firstField_eq_some found
  have area : encode (before ++ .field content :: after) ++ rest =
      encode before ++ (content.tag ::
        BitVec.ofNat 8 content.value.length ::
          (content.value ++ (encode after ++ rest))) := by
    simp [encode_append, Item.encode]
  refine ⟨⟨(encode before).length + 2, content.value.length⟩, ?_, rfl, ?_, ?_⟩
  · rw [area, locate_encode_append avoids, locate_hit content.isTag,
      content.toNat_length]
    rfl
  · rw [area, ← List.drop_drop, List.drop_left]
    simp
  · simp [encode_append, Item.encode]
    omega

/-- Whatever the bytes are, a found tag stands behind complete items that do not
carry it. -/
theorem exists_items_of_locate {tag : Byte} (isTag : F.IsTag tag)
    {area : List Byte} {place : Place}
    (located : locate F tag area = some place) :
    ∃ (items : List (Item F)) (length : Byte) (body : List Byte),
      area = encode items ++ tag :: length :: body ∧ Avoids tag items ∧
        place = ⟨(encode items).length + 2, length.toNat⟩ := by
  induction area using locate.induct F tag generalizing place with
  | case1 => simp [locate] at located
  | case2 rest ih =>
      rw [locate_padding, Option.map_eq_some_iff] at located
      obtain ⟨inner, hinner, rfl⟩ := located
      obtain ⟨items, length, body, rfl, avoids, rfl⟩ := ih hinner
      refine ⟨.padding :: items, length, body, by simp [Item.encode],
        avoids_cons.mpr ⟨by simp [Item.tag?], avoids⟩, ?_⟩
      simp [Place.later, Item.encode]
      omega
  | case3 rest hne =>
      rw [locate_stop] at located
      contradiction
  | case4 head hheadPad hheadStop =>
      simp [locate, hheadPad, hheadStop] at located
  | case5 length body hheadPad hheadStop =>
      rw [locate_hit isTag, Option.some.injEq] at located
      exact ⟨[], length, body, rfl, by simp [Avoids], by simp [← located]⟩
  | case6 head hheadPad hheadStop length body htag ih =>
      rw [locate_skip ⟨hheadPad, hheadStop⟩ htag, Option.map_eq_some_iff]
        at located
      obtain ⟨inner, hinner, rfl⟩ := located
      obtain ⟨items, found, rest, harea, avoids, rfl⟩ := ih hinner
      have hlength : length.toNat ≤ body.length := by
        by_contra short
        rw [List.drop_eq_nil_of_le (by omega)] at harea
        simp at harea
      let content : Field F :=
        ⟨head, body.take length.toNat, hheadPad, hheadStop, by
          simp
          have := length.isLt
          omega⟩
      have hcontent : content.value.length = length.toNat := by
        simp [content, hlength]
      refine ⟨.field content :: items, found, rest, ?_,
        avoids_cons.mpr ⟨by simpa [Item.tag?] using htag, avoids⟩, ?_⟩
      · have hbody := List.take_append_drop length.toNat body
        rw [harea] at hbody
        simp only [encode_cons, Item.encode, hcontent, List.cons_append,
          List.append_assoc, BitVec.ofNat_toNat, BitVec.setWidth_eq]
        rw [hbody]
      · simp [Place.later, Item.encode, hcontent]
        omega

/-- The first field with this tag announces more bytes than the area has
left. -/
def Truncated (F : Framing) (tag announced : Byte)
    (area : List Byte) : Prop :=
  ∃ (items : List (Item F)) (body : List Byte),
    area = encode items ++ tag :: announced :: body ∧ Avoids tag items ∧
      body.length < announced.toNat

theorem truncated_iff {tag announced : Byte} (isTag : F.IsTag tag)
    {area : List Byte} :
    Truncated F tag announced area ↔
      ∃ place, locate F tag area = some place ∧
        place.length = announced.toNat ∧
        area.length < place.offset + place.length := by
  constructor
  · intro truncated
    obtain ⟨items, body, rfl, avoids, short⟩ := truncated
    refine ⟨⟨(encode items).length + 2, announced.toNat⟩, ?_, rfl, ?_⟩
    · rw [locate_encode_append avoids, locate_hit isTag]
      rfl
    · simp
      omega
  · intro cut
    obtain ⟨place, located, hlength, short⟩ := cut
    obtain ⟨items, length, body, rfl, avoids, rfl⟩ :=
      exists_items_of_locate isTag located
    have equality : length = announced := BitVec.eq_of_toNat_eq hlength
    subst equality
    refine ⟨items, body, rfl, avoids, ?_⟩
    simp at short
    omega

/-- The first field with this tag is complete and is the last thing in the
area. -/
def EndsWithField (F : Framing) (tag : Byte) (value area : List Byte) :
    Prop :=
  ∃ (items : List (Item F)) (announced : Byte),
    area = encode items ++ tag :: announced :: value ∧ Avoids tag items ∧
      announced.toNat = value.length

theorem endsWithField_iff {tag : Byte} (isTag : F.IsTag tag)
    {value area : List Byte} :
    EndsWithField F tag value area ↔
      ∃ place, locate F tag area = some place ∧
        place.offset + place.length = area.length ∧
        area.drop place.offset = value := by
  constructor
  · intro ends
    obtain ⟨items, announced, rfl, avoids, hlength⟩ := ends
    refine ⟨⟨(encode items).length + 2, announced.toNat⟩, ?_, ?_, ?_⟩
    · rw [locate_encode_append avoids, locate_hit isTag]
      rfl
    · simp [hlength]
      omega
    · simp
  · intro last
    obtain ⟨place, located, hend, hvalue⟩ := last
    obtain ⟨items, length, body, rfl, avoids, rfl⟩ :=
      exists_items_of_locate isTag located
    have hbody : body = value := by simpa using hvalue
    subst hbody
    refine ⟨items, length, rfl, avoids, ?_⟩
    simp at hend
    omega

/-! An area that is closed by a stop byte behind complete items. -/

theorem locate_closed {tag : Byte} {items : List (Item F)}
    {rest : List Byte} {place : Place}
    (located : locate F tag (encode items ++ F.stop :: rest) = some place) :
    place.offset + place.length ≤ (encode items).length := by
  cases found : firstField tag items with
  | none =>
      rw [locate_encode_append (firstField_eq_none.mp found),
        locate_stop] at located
      cases located
  | some content =>
      obtain ⟨other, same, -, -, inside⟩ :=
        locate_encode_of_firstField found (F.stop :: rest)
      rw [located, Option.some.injEq] at same
      subst same
      exact inside

theorem not_truncated_of_closed {tag announced : Byte} (isTag : F.IsTag tag)
    (items : List (Item F)) (rest : List Byte) :
    ¬ Truncated F tag announced (encode items ++ F.stop :: rest) := by
  intro truncated
  obtain ⟨place, located, -, outside⟩ := (truncated_iff isTag).mp truncated
  have inside := locate_closed located
  rw [List.length_append] at outside
  omega

theorem not_endsWithField_of_closed {tag : Byte} (isTag : F.IsTag tag)
    {value : List Byte} (items : List (Item F)) (rest : List Byte) :
    ¬ EndsWithField F tag value (encode items ++ F.stop :: rest) := by
  intro ends
  obtain ⟨place, located, last, -⟩ := (endsWithField_iff isTag).mp ends
  have inside := locate_closed located
  rw [List.length_append, List.length_cons] at last
  omega

end Framing

end Foundation
