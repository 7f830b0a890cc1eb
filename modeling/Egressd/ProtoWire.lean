import Mathlib.Data.List.Basic
import Mathlib.Data.UInt
import Mathlib.Tactic.Ring

set_option autoImplicit false

/-!
# The protobuf wire format

A message is a sequence of numbered payloads. The reader knows the payloads
that a schema can use, varints and byte strings, and skips what it does not
know: numbers of fixed size and groups. A schema lists the fields of a message
type in the order in which they are written.
-/
namespace ProtoWire

section Varints

/-- A number in at most `k + 1` bytes of seven bits each, the lowest first. -/
def varintWithin : ℕ → ℕ → List UInt8
  | 0, n => [n.toUInt8]
  | k + 1, n =>
    if n < 128 then [n.toUInt8] else (n % 128 + 128).toUInt8 :: varintWithin k (n / 128)

def appendVarint (n : ℕ) : List UInt8 := varintWithin 9 n

/-- The tenth byte has room for one bit only. -/
def consumeVarintWithin : ℕ → List UInt8 → Option (ℕ × List UInt8)
  | _, [] => none
  | 0, b :: bs => if b.toNat < 2 then some (b.toNat, bs) else none
  | k + 1, b :: bs =>
    if b.toNat < 128 then some (b.toNat, bs)
    else (consumeVarintWithin k bs).map (fun r => (b.toNat - 128 + 128 * r.1, r.2))

def consumeVarint (b : List UInt8) : Option (ℕ × List UInt8) := consumeVarintWithin 9 b

theorem toNat_toUInt8 {n : ℕ} (h : n < 256) : n.toUInt8.toNat = n := by
  rw [Nat.toUInt8_eq, UInt8.toNat_ofNat']
  exact Nat.mod_eq_of_lt h

theorem consumeVarintWithin_varintWithin {k n : ℕ} (h : n < 2 * 128 ^ k) (rest : List UInt8) :
    consumeVarintWithin k (varintWithin k n ++ rest) = some (n, rest) := by
  induction k generalizing n with
  | zero =>
    have small : n < 2 := by simpa using h
    have byte := toNat_toUInt8 (n := n) (by omega)
    rw [varintWithin, List.singleton_append, consumeVarintWithin, byte, if_pos small]
  | succ k ih =>
    rw [varintWithin]
    by_cases last : n < 128
    · have byte := toNat_toUInt8 (n := n) (by omega)
      rw [if_pos last, List.singleton_append, consumeVarintWithin, byte, if_pos last]
    · have byte := toNat_toUInt8 (n := n % 128 + 128) (by omega)
      have more : n / 128 < 2 * 128 ^ k := by
        rw [Nat.div_lt_iff_lt_mul (by omega)]
        calc n < 2 * 128 ^ (k + 1) := h
          _ = 2 * 128 ^ k * 128 := by ring
      have split := Nat.div_add_mod n 128
      rw [if_neg last, List.cons_append, consumeVarintWithin, byte, if_neg (by omega), ih more,
        Option.map_some, Nat.add_sub_cancel, Nat.add_comm, split]

theorem consumeVarint_appendVarint {n : ℕ} (h : n < 2 ^ 64) (rest : List UInt8) :
    consumeVarint (appendVarint n ++ rest) = some (n, rest) :=
  consumeVarintWithin_varintWithin (by omega) rest

theorem length_appendVarint (n : ℕ) : 0 < (appendVarint n).length := by
  rw [appendVarint, varintWithin]
  split
  · exact Nat.one_pos
  · exact Nat.succ_pos _

end Varints

inductive Payload where
  | varint (v : UInt64)
  | bytes (b : List UInt8)
  deriving DecidableEq, Repr

inductive WireType where
  | varint
  | fixed64
  | bytes
  | startGroup
  | endGroup
  | fixed32
  deriving DecidableEq, Repr

def WireType.code : WireType → ℕ
  | .varint => 0
  | .fixed64 => 1
  | .bytes => 2
  | .startGroup => 3
  | .endGroup => 4
  | .fixed32 => 5

def WireType.ofCode : ℕ → Option WireType
  | 0 => some .varint
  | 1 => some .fixed64
  | 2 => some .bytes
  | 3 => some .startGroup
  | 4 => some .endGroup
  | 5 => some .fixed32
  | _ => none

section Reading

def maxValidNumber : ℕ := 2 ^ 29 - 1

def consumeTag (maxNumber : ℕ) (b : List UInt8) : Option ((ℕ × WireType) × List UInt8) := do
  let (tag, b) ← consumeVarint b
  let type ← WireType.ofCode (tag % 8)
  if 1 ≤ tag / 8 ∧ tag / 8 ≤ maxNumber then some ((tag / 8, type), b) else none

def consumeFixed (size : ℕ) (b : List UInt8) : Option (List UInt8 × List UInt8) :=
  if size ≤ b.length then some (b.take size, b.drop size) else none

def consumeBytes (b : List UInt8) : Option (List UInt8 × List UInt8) := do
  let (size, b) ← consumeVarint b
  consumeFixed size b

def recursionLimit : ℕ := 10000

/-- Skips to the end of a group, with the numbers of the groups that are open. Every step reads
    a tag, so the number of bytes bounds the steps. -/
def skipGroup : ℕ → List ℕ → List UInt8 → Option (List UInt8)
  | _, [], b => some b
  | 0, _ :: _, _ => none
  | k + 1, number :: outer, b => do
    let ((number', type), b) ← consumeTag (2 ^ 31 - 1) b
    match type with
    | .endGroup => if number' = number then skipGroup k outer b else none
    | .startGroup =>
      if outer.length < recursionLimit then skipGroup k (number' :: number :: outer) b else none
    | .varint => skipGroup k (number :: outer) (← consumeVarint b).2
    | .fixed64 => skipGroup k (number :: outer) (← consumeFixed 8 b).2
    | .bytes => skipGroup k (number :: outer) (← consumeBytes b).2
    | .fixed32 => skipGroup k (number :: outer) (← consumeFixed 4 b).2

def consumeField (b : List UInt8) : Option (Option (ℕ × Payload) × List UInt8) := do
  let ((number, type), b) ← consumeTag maxValidNumber b
  match type with
  | .varint =>
    let (v, b) ← consumeVarint b
    return (some (number, .varint (UInt64.ofNat v)), b)
  | .bytes =>
    let (p, b) ← consumeBytes b
    return (some (number, .bytes p), b)
  | .fixed64 => return (none, (← consumeFixed 8 b).2)
  | .fixed32 => return (none, (← consumeFixed 4 b).2)
  | .startGroup => return (none, ← skipGroup b.length [number] b)
  | .endGroup => none

def fieldsWithin : ℕ → List UInt8 → Option (List (ℕ × Payload))
  | _, [] => some []
  | 0, _ :: _ => none
  | k + 1, x :: b => do
    let (field, b) ← consumeField (x :: b)
    return field.toList ++ (← fieldsWithin k b)

def fields (b : List UInt8) : Option (List (ℕ × Payload)) := fieldsWithin b.length b

end Reading

section Writing

def Payload.type : Payload → WireType
  | .varint _ => .varint
  | .bytes _ => .bytes

def Payload.content : Payload → List UInt8
  | .varint v => appendVarint v.toNat
  | .bytes b => appendVarint b.length ++ b

def appendTag (number : ℕ) (type : WireType) : List UInt8 :=
  appendVarint (number * 8 + type.code)

def appendField (field : ℕ × Payload) : List UInt8 :=
  appendTag field.1 field.2.type ++ field.2.content

def appendFields (fs : List (ℕ × Payload)) : List UInt8 := fs.flatMap appendField

end Writing

section RoundTrip

def Payload.Fits : Payload → Prop
  | .varint _ => True
  | .bytes b => b.length < 2 ^ 64

def ValidNumber (number : ℕ) : Prop := 1 ≤ number ∧ number ≤ maxValidNumber

instance (number : ℕ) : Decidable (ValidNumber number) := inferInstanceAs (Decidable (_ ∧ _))

theorem WireType.ofCode_code (type : WireType) : WireType.ofCode type.code = some type := by
  cases type <;> rfl

theorem WireType.code_lt (type : WireType) : type.code < 8 := by
  cases type <;> decide

theorem consumeTag_appendTag {number : ℕ} (valid : ValidNumber number) (type : WireType)
    (rest : List UInt8) :
    consumeTag maxValidNumber (appendTag number type ++ rest) = some ((number, type), rest) := by
  obtain ⟨low, high⟩ := valid
  have code := type.code_lt
  have small : number * 8 + type.code < 2 ^ 64 := by
    unfold maxValidNumber at high
    omega
  have quotient : (number * 8 + type.code) / 8 = number := by omega
  have remainder : (number * 8 + type.code) % 8 = type.code := by omega
  rw [consumeTag, appendTag, consumeVarint_appendVarint small]
  simp only [Option.bind_eq_bind, Option.bind_some, quotient, remainder, WireType.ofCode_code]
  rw [if_pos ⟨low, high⟩]

theorem consumeBytes_append {b : List UInt8} (h : b.length < 2 ^ 64) (rest : List UInt8) :
    consumeBytes (appendVarint b.length ++ b ++ rest) = some (b, rest) := by
  rw [consumeBytes, List.append_assoc, consumeVarint_appendVarint h]
  simp only [Option.bind_eq_bind, Option.bind_some]
  rw [consumeFixed, if_pos (by rw [List.length_append]; omega), List.take_left, List.drop_left]

theorem consumeField_appendField {number : ℕ} {p : Payload} (valid : ValidNumber number)
    (fits : p.Fits) (rest : List UInt8) :
    consumeField (appendField (number, p) ++ rest) = some (some (number, p), rest) := by
  rw [consumeField, appendField, List.append_assoc, consumeTag_appendTag valid]
  simp only [Option.bind_eq_bind, Option.bind_some]
  cases p with
  | varint v =>
    simp only [Payload.type, Payload.content]
    rw [consumeVarint_appendVarint v.toNat_lt]
    simp only [Option.bind_some, UInt64.ofNat_toNat]
    rfl
  | bytes b =>
    simp only [Payload.type, Payload.content]
    rw [consumeBytes_append fits]
    rfl

theorem length_appendField (field : ℕ × Payload) : 0 < (appendField field).length := by
  have tag := length_appendVarint (field.1 * 8 + field.2.type.code)
  rw [appendField, appendTag, List.length_append]
  omega

theorem length_le_appendFields (fs : List (ℕ × Payload)) :
    fs.length ≤ (appendFields fs).length := by
  induction fs with
  | nil => exact Nat.zero_le _
  | cons f fs ih =>
    have first := length_appendField f
    rw [appendFields, List.flatMap_cons, List.length_append, List.length_cons]
    unfold appendFields at ih
    omega

theorem fieldsWithin_succ {k : ℕ} {b : List UInt8} (h : b ≠ []) : fieldsWithin (k + 1) b =
    (consumeField b).bind (fun r => (fieldsWithin k r.2).map (r.1.toList ++ ·)) := by
  cases b with
  | nil => exact absurd rfl h
  | cons x b =>
    rw [fieldsWithin]
    cases consumeField (x :: b) with
    | none => rfl
    | some r => cases h : fieldsWithin k r.2 <;> simp [h]

theorem fieldsWithin_appendFields {k : ℕ} {fs : List (ℕ × Payload)} (enough : fs.length ≤ k)
    (valid : ∀ f ∈ fs, ValidNumber f.1) (fits : ∀ f ∈ fs, f.2.Fits) :
    fieldsWithin k (appendFields fs) = some fs := by
  induction fs generalizing k with
  | nil => cases k <;> rfl
  | cons f fs ih =>
    cases k with
    | zero => exact absurd enough (Nat.not_succ_le_zero _)
    | succ k =>
      have first := consumeField_appendField (valid f List.mem_cons_self)
        (fits f List.mem_cons_self) (appendFields fs)
      have nonempty : appendField f ++ appendFields fs ≠ [] := by
        have length := length_appendField f
        intro empty
        rw [List.append_eq_nil_iff] at empty
        rw [empty.1] at length
        cases length
      change fieldsWithin (k + 1) (appendField f ++ appendFields fs) = _
      rw [fieldsWithin_succ nonempty, first, Option.bind_some,
        ih (by rw [List.length_cons] at enough; omega)
          (fun f mem => valid f (List.mem_cons_of_mem _ mem))
          (fun f mem => fits f (List.mem_cons_of_mem _ mem))]
      rfl

theorem fields_appendFields {fs : List (ℕ × Payload)} (valid : ∀ f ∈ fs, ValidNumber f.1)
    (fits : ∀ f ∈ fs, f.2.Fits) : fields (appendFields fs) = some fs :=
  fieldsWithin_appendFields (length_le_appendFields fs) valid fits

end RoundTrip

section Schemas

variable {M A : Type}

/-- A field of a message type: what is written for a message, whether it can be written, and
    what reading one payload of its number does, which fails on malformed content. -/
structure Field (M : Type) where
  number : ℕ
  valid : M → Bool
  write : M → List Payload
  read : M → Payload → Option M

structure Schema (M : Type) where
  zero : M
  fields : List (Field M)

def Schema.valid (S : Schema M) (m : M) : Bool := S.fields.all (fun f => f.valid m)

def Field.written (f : Field M) (m : M) : List (ℕ × Payload) :=
  (f.write m).map (fun p => (f.number, p))

def Schema.written (S : Schema M) (m : M) : List (ℕ × Payload) :=
  S.fields.flatMap (fun f => f.written m)

def Schema.marshal (S : Schema M) (m : M) : Option (List UInt8) :=
  if S.valid m then some (appendFields (S.written m)) else none

/-- A payload without a field in the schema is unknown and changes nothing. -/
def Schema.read (S : Schema M) (m : M) (p : ℕ × Payload) : Option M :=
  match S.fields.find? (fun f => f.number = p.1) with
  | some f => f.read m p.2
  | none => some m

def Schema.unmarshal (S : Schema M) (b : List UInt8) : Option M :=
  (ProtoWire.fields b).bind (fun ps => ps.foldlM S.read S.zero)

def validString (b : List UInt8) : Bool := (ByteArray.mk b.toArray).validateUTF8

/-- Fields with one value leave out their zero value. A payload of the wrong type is unknown. -/
def Field.int64 (number : ℕ) (get : M → Int64) (set : M → Int64 → M) : Field M where
  number := number
  valid _ := true
  write m := if get m = 0 then [] else [.varint (get m).toUInt64]
  read
    | m, .varint v => some (set m v.toInt64)
    | m, .bytes _ => some m

/-- A negative number is extended to 64 bits. -/
def Field.int32 (number : ℕ) (get : M → Int32) (set : M → Int32 → M) : Field M where
  number := number
  valid _ := true
  write m := if get m = 0 then [] else [.varint (get m).toInt64.toUInt64]
  read
    | m, .varint v => some (set m v.toInt64.toInt32)
    | m, .bytes _ => some m

def Field.string (number : ℕ) (get : M → List UInt8) (set : M → List UInt8 → M) : Field M where
  number := number
  valid m := validString (get m)
  write m := if get m = [] then [] else [.bytes (get m)]
  read
    | m, .bytes b => if validString b then some (set m b) else none
    | m, .varint _ => some m

def Field.text (number : ℕ) (get : M → String) (set : M → String → M) : Field M where
  number := number
  valid _ := true
  write m := if get m = "" then [] else [.bytes (get m).toUTF8.data.toList]
  read
    | m, .bytes b => (String.fromUTF8? ⟨b.toArray⟩).map (set m)
    | m, .varint _ => some m

def Field.messages (number : ℕ) (S : Schema A) (get : M → List A) (set : M → List A → M) :
    Field M where
  number := number
  valid m := (get m).all S.valid
  write m := (get m).map (fun a => .bytes (appendFields (S.written a)))
  read
    | m, .bytes b => (S.unmarshal b).map (fun a => set m (get m ++ [a]))
    | m, .varint _ => some m

end Schemas

section Messages

variable {M A : Type}

/-- Reading what a field has written for `m` takes one message to the other. -/
def Field.Restores (f : Field M) (m acc acc' : M) : Prop :=
  f.valid m = true → (∀ p ∈ f.write m, p.Fits) → (f.write m).foldlM f.read acc = some acc'

inductive Restored (m : M) : List (Field M) → M → M → Prop where
  | nil (acc : M) : Restored m [] acc acc
  | cons {f : Field M} {fs : List (Field M)} {acc acc' acc'' : M} (first : f.Restores m acc acc')
      (rest : Restored m fs acc' acc'') : Restored m (f :: fs) acc acc''

structure Schema.Lawful (S : Schema M) : Prop where
  valid : ∀ f ∈ S.fields, ValidNumber f.number
  distinct : (S.fields.map Field.number).Nodup
  restored : ∀ m, Restored m S.fields S.zero m

theorem restores_optional {f : Field M} {m acc acc' : M} {p : Payload} {absent : Prop}
    [Decidable absent] (write : f.write m = if absent then [] else [p])
    (skip : absent → acc = acc') (read : ¬ absent → f.valid m = true → f.read acc p = some acc') :
    f.Restores m acc acc' := by
  intro valid _
  rw [write]
  by_cases h : absent
  · rw [if_pos h, skip h]
    rfl
  · rw [if_neg h, List.foldlM_cons, read h valid]
    rfl

theorem restores_int64 {number : ℕ} {get : M → Int64} {set : M → Int64 → M} {m acc : M}
    (unset : set acc 0 = acc) :
    (Field.int64 number get set).Restores m acc (set acc (get m)) := by
  refine restores_optional rfl (fun absent => ?_) (fun _ _ => ?_)
  · rw [absent, unset]
  · simp only [Field.int64, Int64.toInt64_toUInt64]

theorem restores_int32 {number : ℕ} {get : M → Int32} {set : M → Int32 → M} {m acc : M}
    (unset : set acc 0 = acc) :
    (Field.int32 number get set).Restores m acc (set acc (get m)) := by
  refine restores_optional rfl (fun absent => ?_) (fun _ _ => ?_)
  · rw [absent, unset]
  · simp only [Field.int32, Int64.toInt64_toUInt64, Int32.toInt32_toInt64]

theorem restores_string {number : ℕ} {get : M → List UInt8} {set : M → List UInt8 → M} {m acc : M}
    (unset : set acc [] = acc) :
    (Field.string number get set).Restores m acc (set acc (get m)) := by
  refine restores_optional rfl (fun absent => ?_) (fun _ valid => ?_)
  · rw [absent, unset]
  · exact if_pos valid

theorem restores_text {number : ℕ} {get : M → String} {set : M → String → M} {m acc : M}
    (unset : set acc "" = acc) :
    (Field.text number get set).Restores m acc (set acc (get m)) := by
  refine restores_optional rfl (fun absent => ?_) (fun _ _ => ?_)
  · rw [absent, unset]
  · have back : String.fromUTF8? (get m).toUTF8 = some (get m) := by
      simp only [String.fromUTF8?]
      exact dif_pos (get m).isValidUTF8
    change (String.fromUTF8? (get m).toUTF8).map (set acc) = _
    rw [back]
    rfl

theorem Payload.fits_of_mem {fs : List (ℕ × Payload)} {f : ℕ × Payload} (mem : f ∈ fs)
    (small : (appendFields fs).length < 2 ^ 64) : f.2.Fits := by
  obtain ⟨number, p⟩ := f
  cases p with
  | varint v => trivial
  | bytes b =>
    have inside : (appendField (number, .bytes b)).length ≤ (appendFields fs).length := by
      obtain ⟨before, after, rfl⟩ := List.append_of_mem mem
      simp only [appendFields, List.flatMap_append, List.flatMap_cons, List.length_append]
      omega
    simp only [appendField, Payload.content, List.length_append] at inside
    change b.length < 2 ^ 64
    omega

theorem foldlM_append_some {α β : Type} {g : β → α → Option β} {xs ys : List α} {b b' : β}
    (h : xs.foldlM g b = some b') : (xs ++ ys).foldlM g b = ys.foldlM g b' := by
  rw [List.foldlM_append, h]
  rfl

theorem find_number {fs : List (Field M)} (distinct : (fs.map Field.number).Nodup) {f : Field M}
    (mem : f ∈ fs) : fs.find? (fun g => g.number = f.number) = some f := by
  induction fs with
  | nil => cases mem
  | cons g fs ih =>
    rw [List.map_cons, List.nodup_cons] at distinct
    rcases List.mem_cons.mp mem with rfl | later
    · exact List.find?_cons_of_pos (by simp)
    · have other : g.number ≠ f.number := by
        intro same
        exact distinct.1 (same ▸ List.mem_map_of_mem later)
      rw [List.find?_cons_of_neg (by simpa using other)]
      exact ih distinct.2 later

theorem Schema.foldlM_read {S : Schema M} (distinct : (S.fields.map Field.number).Nodup)
    {f : Field M} (mem : f ∈ S.fields) (ps : List Payload) (acc : M) :
    (ps.map (fun p => (f.number, p))).foldlM S.read acc = ps.foldlM f.read acc := by
  have each : ∀ acc p, S.read acc (f.number, p) = f.read acc p := by
    intro acc p
    rw [Schema.read, find_number distinct mem]
  induction ps generalizing acc with
  | nil => rfl
  | cons p ps ih =>
    rw [List.map_cons, List.foldlM_cons, List.foldlM_cons, each]
    simp only [ih]

theorem Schema.foldlM_written {S : Schema M} (distinct : (S.fields.map Field.number).Nodup)
    {m acc acc' : M} (fits : ∀ p ∈ S.written m, p.2.Fits) {fs : List (Field M)}
    (sub : ∀ f ∈ fs, f ∈ S.fields) (valid : ∀ f ∈ fs, f.valid m = true)
    (restored : Restored m fs acc acc') :
    (fs.flatMap (fun f => f.written m)).foldlM S.read acc = some acc' := by
  induction restored with
  | nil acc => rfl
  | @cons f fs acc acc₁ acc' first _ ih =>
    have inside : ∀ p ∈ f.write m, p.Fits := by
      intro p mem
      exact fits (f.number, p) (List.mem_flatMap.mpr
        ⟨f, sub f List.mem_cons_self, List.mem_map_of_mem mem⟩)
    have head := first (valid f List.mem_cons_self) inside
    rw [← Schema.foldlM_read distinct (sub f List.mem_cons_self)] at head
    rw [List.flatMap_cons, Field.written, foldlM_append_some head]
    exact ih (fun f mem => sub f (List.mem_cons_of_mem _ mem))
      (fun f mem => valid f (List.mem_cons_of_mem _ mem))

theorem Schema.Lawful.unmarshal_written {S : Schema M} (lawful : S.Lawful) {m : M}
    (valid : S.valid m = true) (small : (appendFields (S.written m)).length < 2 ^ 64) :
    S.unmarshal (appendFields (S.written m)) = some m := by
  have fits : ∀ p ∈ S.written m, p.2.Fits := fun p mem => Payload.fits_of_mem mem small
  have numbers : ∀ p ∈ S.written m, ValidNumber p.1 := by
    intro p mem
    obtain ⟨f, hf, hp⟩ := List.mem_flatMap.mp mem
    obtain ⟨_, _, rfl⟩ := List.mem_map.mp hp
    exact lawful.valid f hf
  rw [Schema.unmarshal, fields_appendFields numbers fits, Option.bind_some]
  exact Schema.foldlM_written lawful.distinct fits (fun _ mem => mem)
    (fun f mem => List.all_eq_true.mp valid f mem) (lawful.restored m)

theorem Schema.Lawful.unmarshal_marshal {S : Schema M} (lawful : S.Lawful) {m : M}
    {b : List UInt8} (h : S.marshal m = some b) (small : b.length < 2 ^ 64) :
    S.unmarshal b = some m := by
  unfold Schema.marshal at h
  split at h
  · rename_i valid
    cases h
    exact lawful.unmarshal_written valid small
  · cases h

structure Schema.Sound (S : Schema M) : Prop where
  zero : S.valid S.zero = true
  read : ∀ f ∈ S.fields, ∀ m p m', S.valid m = true → f.read m p = some m' → S.valid m' = true

theorem Schema.Sound.valid_of_unmarshal {S : Schema M} (sound : S.Sound) {b : List UInt8} {m : M}
    (h : S.unmarshal b = some m) : S.valid m = true := by
  have each : ∀ (ps : List (ℕ × Payload)) (acc : M), S.valid acc = true →
      ps.foldlM S.read acc = some m → S.valid m = true := by
    intro ps
    induction ps with
    | nil =>
      intro acc valid read
      cases read
      exact valid
    | cons p ps ih =>
      intro acc valid read
      rw [List.foldlM_cons] at read
      obtain ⟨acc', first, rest⟩ := Option.bind_eq_some_iff.mp read
      refine ih acc' ?_ rest
      unfold Schema.read at first
      split at first
      · rename_i f found
        exact sound.read f (List.mem_of_find?_eq_some found) acc p.2 acc' valid first
      · cases first
        exact valid
  obtain ⟨ps, _, read⟩ := Option.bind_eq_some_iff.mp h
  exact each ps S.zero sound.zero read

theorem restores_messages {number : ℕ} {S : Schema A} (lawful : S.Lawful) {get : M → List A}
    {set : M → List A → M} (get_set : ∀ m v, get (set m v) = v)
    (set_set : ∀ m v w, set (set m v) w = set m w) {m acc : M} (unset : set acc [] = acc) :
    (Field.messages number S get set).Restores m acc (set acc (get m)) := by
  intro valid fits
  have items : ∀ as done : List A, (∀ a ∈ as, a ∈ get m) →
      (as.map (fun a => Payload.bytes (appendFields (S.written a)))).foldlM
        (Field.messages number S get set).read (set acc done) = some (set acc (done ++ as)) := by
    intro as
    induction as with
    | nil =>
      intro done _
      rw [List.append_nil]
      rfl
    | cons a as ih =>
      intro done sub
      have mem := sub a List.mem_cons_self
      have one := lawful.unmarshal_written (List.all_eq_true.mp valid a mem)
        (fits _ (List.mem_map_of_mem mem))
      have read : (Field.messages number S get set).read (set acc done)
          (.bytes (appendFields (S.written a))) = some (set acc (done ++ [a])) := by
        change (S.unmarshal _).map _ = _
        rw [one, Option.map_some, get_set, set_set]
      rw [List.map_cons, List.foldlM_cons, read]
      have rest := ih (done ++ [a]) (fun b mem => sub b (List.mem_cons_of_mem _ mem))
      rw [List.append_assoc, List.singleton_append] at rest
      exact rest
  have all := items (get m) [] (fun _ mem => mem)
  rw [unset, List.nil_append] at all
  exact all

end Messages

end ProtoWire
