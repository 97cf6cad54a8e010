import ConsumerEngine.Core.Identifiers
import Mathlib.Data.List.TakeWhile
import Mathlib.Data.Set.Function
import Mathlib.Tactic.IntervalCases

/-! Presigned export tokens.

A token is `"{expiry}.{hex_tag}"`, its tag the MAC of `"{snapshot_id}.{expiry}"` under
the engine's 32-byte key. The MAC itself is a parameter: a function from a key and the
bytes of a message to 32 bytes.
-/

set_option autoImplicit false

namespace ConsumerEngine.Ingress

open ConsumerEngine.Core

/-- The bytes of a `str`. -/
def utf8 (text : String) : List UInt8 := text.toByteArray.data.toList

/-- `str::parse::<u64>`: digits behind at most one plus sign, below the 64-bit limit. -/
def parseU64 (text : String) : Option UInt64 :=
  let digits := match text.toList with
    | '+' :: rest => rest
    | all => all
  if digits = [] || !digits.all Char.isDigit then none
  else
    let value := Nat.ofDigitChars 10 digits 0
    if value < UInt64.size then some (UInt64.ofNat value) else none

/-- `u64::saturating_add` -/
def saturatingAdd (left right : UInt64) : UInt64 :=
  UInt64.ofNat (min (left.toNat + right.toNat) (UInt64.size - 1))

/-- `{b:02x}` -/
def hexPair (b : UInt8) : List Char :=
  [Nat.digitChar (b.toNat / 16), Nat.digitChar (b.toNat % 16)]

/-- Encode bytes as lowercase hex. -/
def hexEncode (bytes : List UInt8) : String := String.ofList (bytes.flatMap hexPair)

/-- Map one hex character to its nibble value, or `none` if not hex. -/
def hexNibble (c : UInt8) : Option UInt8 :=
  if 48 ≤ c ∧ c ≤ 57 then some (c - 48)
  else if 97 ≤ c ∧ c ≤ 102 then some (c - 97 + 10)
  else if 65 ≤ c ∧ c ≤ 70 then some (c - 65 + 10)
  else none

/-- The loop of `hex_decode`, two bytes a turn. -/
def hexPairs : List UInt8 → Option (List UInt8)
  | [] => some []
  | [_] => none
  | hiByte :: loByte :: rest => do
      let hi ← hexNibble hiByte
      let lo ← hexNibble loByte
      let out ← hexPairs rest
      return (hi <<< 4 ||| lo) :: out

/-- Decode a hex string, rejecting odd-length or non-hex input. -/
def hexDecode (s : String) : Option (List UInt8) :=
  if (utf8 s).length % 2 ≠ 0 then none else hexPairs (utf8 s)

/-- `TAG_LEN` -/
def tagLen : Nat := 32

abbrev SigningKey : Type := Vector UInt8 32

abbrev Tag : Type := Vector UInt8 tagLen

/-- The signed text, `"{snapshot_id}.{expiry}"`. -/
def message (snapshotId : String) (expiry : UInt64) : List UInt8 :=
  utf8 (snapshotId ++ "." ++ toString expiry.toNat)

section Signing

variable (hmac : SigningKey → List UInt8 → Tag) (now : UInt64) (key : SigningKey)

/-- Sign `snapshotId` for `ttlSecs`. The key has the length the MAC takes, so the
initialiser does not fail. -/
def sign (snapshotId : String) (ttlSecs : UInt64) : String :=
  let expiry := saturatingAdd now ttlSecs
  let tag := hmac key (message snapshotId expiry)
  toString expiry.toNat ++ "." ++ hexEncode tag.toList

/-- Verify `token` against `snapshotId`. -/
def verify (snapshotId token : String) : Bool :=
  match splitOnce '.' token with
  | none => false
  | some (expiryStr, tagHex) =>
    match parseU64 expiryStr with
    | none => false
    | some expiry =>
      if now ≥ expiry then false
      else
        match hexDecode tagHex with
        | none => false
        | some tag =>
          if tag.length ≠ tagLen then false
          else tag == (hmac key (message snapshotId expiry)).toList

end Signing

theorem utf8_injective : Function.Injective utf8 := by
  intro first second same
  have bytes : first.toByteArray.data = second.toByteArray.data := Array.toList_inj.mp same
  exact String.toByteArray_inj.mp (ByteArray.ext bytes)

theorem utf8_ofList (chars : List Char) :
    utf8 (String.ofList chars) = chars.flatMap String.utf8EncodeChar := by
  simp [utf8, List.utf8Encode]

theorem saturatingAdd_toNat (left right : UInt64) :
    (saturatingAdd left right).toNat = min (left.toNat + right.toNat) (UInt64.size - 1) := by
  refine UInt64.toNat_ofNat_of_lt' (lt_of_le_of_lt (min_le_right _ _) ?_)
  decide

theorem digit_of_mem_toString {n : Nat} {c : Char} (member : c ∈ (toString n).toList) :
    c.isDigit = true :=
  Nat.isDigit_of_mem_toDigits (by decide) (by decide) (Nat.toList_repr ▸ member)

theorem ofDigitChars_toString (n : Nat) : Nat.ofDigitChars 10 (toString n).toList 0 = n := by
  have digits : (toString n).toList = Nat.toDigits 10 n := Nat.toList_repr
  rw [digits, Nat.ofDigitChars_ten_toDigits]

/-- An expiry is read back from its own rendering. -/
theorem parseU64_toString (expiry : UInt64) : parseU64 (toString expiry.toNat) = some expiry := by
  have isDigits : ∀ c ∈ (toString expiry.toNat).toList, c.isDigit = true :=
    fun _ member => digit_of_mem_toString member
  have noSign : (match (toString expiry.toNat).toList with
      | '+' :: rest => rest
      | all => all) = (toString expiry.toNat).toList := by
    split
    · rename_i rest starts
      have plus := isDigits '+' (starts ▸ List.mem_cons_self)
      exact absurd plus (by decide)
    · rfl
  have some_ : (toString expiry.toNat).toList ≠ [] := by
    have digits : (toString expiry.toNat).toList = Nat.toDigits 10 expiry.toNat := Nat.toList_repr
    rw [digits]
    exact Nat.toDigits_ne_nil
  have allDigits : (toString expiry.toNat).toList.all Char.isDigit = true :=
    List.all_eq_true.mpr isDigits
  unfold parseU64
  simp only [noSign, some_, allDigits, ofDigitChars_toString, expiry.toNat_lt_size, Bool.not_true,
    if_true, UInt64.ofNat_toNat]
  rfl

theorem hexDigit_bytes {n : Nat} (small : n < 16) :
    ∃ c, String.utf8EncodeChar (Nat.digitChar n) = [c] ∧ hexNibble c = some (UInt8.ofNat n) := by
  -- Sixteen digits, each one byte of one of the three ranges.
  interval_cases n <;> exact ⟨_, rfl, rfl⟩

theorem nibbles_join (b : UInt8) :
    (UInt8.ofNat (b.toNat / 16) <<< 4 ||| UInt8.ofNat (b.toNat % 16)) = b := by
  have all : ∀ n < 256,
      (UInt8.ofNat (n / 16) <<< 4 ||| UInt8.ofNat (n % 16)) = UInt8.ofNat n := by decide +kernel
  simpa using all b.toNat b.toNat_lt

theorem hexPairs_encode (bytes : List UInt8) :
    hexPairs ((bytes.flatMap hexPair).flatMap String.utf8EncodeChar) = some bytes := by
  induction bytes with
  | nil => rfl
  | cons b rest ih =>
    obtain ⟨hi, hiBytes, hiNibble⟩ := hexDigit_bytes (n := b.toNat / 16) (by
      have := b.toNat_lt
      omega)
    obtain ⟨lo, loBytes, loNibble⟩ := hexDigit_bytes (n := b.toNat % 16) (by omega)
    simp only [List.flatMap_cons, hexPair, hiBytes, loBytes, List.cons_append, List.nil_append,
      hexPairs, hiNibble, loNibble, Option.bind_eq_bind, Option.bind_some, ih, nibbles_join,
      Option.pure_def]

theorem hexPairs_even {bytes out : List UInt8} (decoded : hexPairs bytes = some out) :
    bytes.length % 2 = 0 := by
  induction bytes using hexPairs.induct generalizing out with
  | case1 => rfl
  | case2 => simp [hexPairs] at decoded
  | case3 hi lo rest ih =>
    simp only [hexPairs, Option.bind_eq_bind, Option.bind_eq_some_iff] at decoded
    obtain ⟨_, _, _, _, later, decodedLater, _⟩ := decoded
    have even := ih decodedLater
    simp only [List.length_cons]
    omega

/-- A tag is read back from its own hex. -/
theorem hexDecode_hexEncode (bytes : List UInt8) : hexDecode (hexEncode bytes) = some bytes := by
  have decoded := hexPairs_encode bytes
  unfold hexDecode hexEncode
  rw [utf8_ofList, if_neg (not_not.mpr (hexPairs_even decoded)), decoded]

/-- A separator-free prefix is all that stands before the first separator. -/
theorem takeWhile_free {separator : Char} {before after : List Char} (free : separator ∉ before) :
    (before ++ separator :: after).takeWhile (· != separator) = before := by
  have all : ∀ c ∈ before, (c != separator) = true := fun c member =>
    bne_iff_ne.mpr fun same => free (same ▸ member)
  rw [List.takeWhile_append_of_pos all]
  simp

theorem dropWhile_free {separator : Char} {before after : List Char} (free : separator ∉ before) :
    (before ++ separator :: after).dropWhile (· != separator) = separator :: after := by
  have all : ∀ c ∈ before, (c != separator) = true := fun c member =>
    bne_iff_ne.mpr fun same => free (same ▸ member)
  rw [List.dropWhile_append_of_pos all]
  simp

theorem splitOnce_of_free {separator : Char} {before after : String}
    (free : separator ∉ before.toList) :
    splitOnce separator (before ++ String.singleton separator ++ after) = some (before, after) := by
  unfold splitOnce
  rw [List.span_eq_takeWhile_dropWhile]
  simp only [String.toList_append, String.toList_singleton, List.append_assoc,
    List.singleton_append, takeWhile_free free, dropWhile_free free, String.ofList_toList]

theorem dot_not_mem_toString (n : Nat) : '.' ∉ (toString n).toList := fun member =>
  absurd (digit_of_mem_toString member) (by decide)

/-- The id may hold dots, the digits do not: read from its end, a message has one reading. -/
theorem message_injective {id id' : String} {expiry expiry' : UInt64}
    (same : message id expiry = message id' expiry') : id = id' ∧ expiry = expiry' := by
  have texts : (toString expiry.toNat).toList.reverse ++ '.' :: id.toList.reverse =
      (toString expiry'.toNat).toList.reverse ++ '.' :: id'.toList.reverse := by
    have chars := congrArg (fun text : String => text.toList.reverse) (utf8_injective same)
    simpa using chars
  have free : ∀ n : Nat, '.' ∉ (toString n).toList.reverse := fun n member =>
    dot_not_mem_toString n (List.mem_reverse.mp member)
  have digits := congrArg (List.takeWhile (· != '.')) texts
  have ids := congrArg (List.dropWhile (· != '.')) texts
  rw [takeWhile_free (free _), takeWhile_free (free _), List.reverse_inj] at digits
  rw [dropWhile_free (free _), dropWhile_free (free _), List.cons.injEq, List.reverse_inj] at ids
  have values := congrArg (fun chars => Nat.ofDigitChars 10 chars 0) digits
  simp only [ofDigitChars_toString] at values
  exact ⟨String.toList_injective ids.2, UInt64.toNat_inj.mp values⟩

/-- What a token says, before anyone checks it: its expiry and the bytes of its tag. -/
def reading (token : String) : Option (UInt64 × List UInt8) := do
  let (stated, tagHex) ← splitOnce '.' token
  let expiry ← parseU64 stated
  let tag ← hexDecode tagHex
  return (expiry, tag)

section Tokens

variable {hmac : SigningKey → List UInt8 → Tag} {now : UInt64} {key : SigningKey}
variable {snapshotId token : String}

theorem reading_sign (ttlSecs : UInt64) :
    reading (sign hmac now key snapshotId ttlSecs) = some (saturatingAdd now ttlSecs,
      (hmac key (message snapshotId (saturatingAdd now ttlSecs))).toList) := by
  have split := @splitOnce_of_free '.' (toString (saturatingAdd now ttlSecs).toNat)
    (hexEncode (hmac key (message snapshotId (saturatingAdd now ttlSecs))).toList)
    (dot_not_mem_toString _)
  unfold reading sign
  simp only [show ("." : String) = String.singleton '.' from rfl, split, Option.bind_eq_bind,
    Option.bind_some, parseU64_toString, hexDecode_hexEncode, Option.pure_def]

/-- Acceptance: the token carries the tag of this id and its own expiry, still ahead. -/
theorem verify_iff :
    verify hmac now key snapshotId token = true ↔
      ∃ expiry, reading token = some (expiry, (hmac key (message snapshotId expiry)).toList) ∧
        now < expiry := by
  unfold verify reading
  cases parts : splitOnce '.' token with
  | none => simp
  | some pair =>
    obtain ⟨stated, tagHex⟩ := pair
    cases parsed : parseU64 stated with
    | none => simp [parsed]
    | some expiry =>
      cases decoded : hexDecode tagHex with
      | none => simp [parsed, decoded]
      | some tag =>
        by_cases expired : expiry ≤ now
        · simp [parsed, decoded, expired]
        · by_cases exact_ : tag = (hmac key (message snapshotId expiry)).toList
          · simp [parsed, decoded, expired, exact_, UInt64.not_le.mp expired]
          · simp [parsed, decoded, exact_]

theorem verify_sign (ttlSecs later : UInt64) :
    verify hmac later key snapshotId (sign hmac now key snapshotId ttlSecs) = true ↔
      later.toNat < min (now.toNat + ttlSecs.toNat) (UInt64.size - 1) := by
  rw [verify_iff, reading_sign, ← saturatingAdd_toNat, ← UInt64.lt_iff_toNat_lt]
  constructor
  · rintro ⟨expiry, same, ahead⟩
    simp only [Option.some.injEq, Prod.mk.injEq] at same
    exact same.1 ▸ ahead
  · exact fun ahead => ⟨_, rfl, ahead⟩

/-- Where the MAC does not collide, a tag fixes key, id and expiry. -/
theorem tag_injective {signed : Set (SigningKey × List UInt8)} {key' : SigningKey}
    {id id' : String} {expiry expiry' : UInt64}
    (injective : Set.InjOn (fun used : SigningKey × List UInt8 => hmac used.1 used.2) signed)
    (used : (key, message id expiry) ∈ signed) (used' : (key', message id' expiry') ∈ signed)
    (same : (hmac key (message id expiry)).toList = (hmac key' (message id' expiry')).toList) :
    key = key' ∧ id = id' ∧ expiry = expiry' := by
  have tags := Vector.toList_inj.mp same
  have pairs := Prod.mk.inj (injective used used' tags)
  exact ⟨pairs.1, message_injective pairs.2⟩

end Tokens

/-- What a set of tokens may be relied on for. Thirty-two bytes cannot keep all messages
apart, so injectivity is asked on the messages at hand, `signed`. -/
structure Binds (hmac : SigningKey → List UInt8 → Tag)
    (signed : Set (SigningKey × List UInt8)) : Prop where
  lives : ∀ key id ttl now later, verify hmac later key id (sign hmac now key id ttl) = true ↔
    later.toNat < min (now.toNat + ttl.toNat) (UInt64.size - 1)
  genuine : ∀ key id token now, verify hmac now key id token = true → ∃ expiry,
    reading token = some (expiry, (hmac key (message id expiry)).toList) ∧
      reading token = reading (sign hmac expiry key id 0) ∧ now < expiry
  bound : ∀ key id token now key' id' token' now' expiry expiry' tag,
    verify hmac now key id token = true → verify hmac now' key' id' token' = true →
    reading token = some (expiry, tag) → reading token' = some (expiry', tag) →
    (key, message id expiry) ∈ signed → (key', message id' expiry') ∈ signed →
    key = key' ∧ id = id' ∧ expiry = expiry'

theorem presigned_tokens_bind {hmac : SigningKey → List UInt8 → Tag}
    {signed : Set (SigningKey × List UInt8)}
    (injective : Set.InjOn (fun used : SigningKey × List UInt8 => hmac used.1 used.2) signed) :
    Binds hmac signed where
  lives key id ttl now later := verify_sign ttl later
  genuine key id token now accepted := by
    obtain ⟨expiry, read, ahead⟩ := verify_iff.mp accepted
    have whole : saturatingAdd expiry 0 = expiry := by
      refine UInt64.toNat_inj.mp ?_
      rw [saturatingAdd_toNat]
      have small := expiry.toNat_lt_size
      simp only [UInt64.toNat_zero]
      omega
    exact ⟨expiry, read, by rw [reading_sign, whole, read], ahead⟩
  bound key id token now key' id' token' now' expiry expiry' tag accepted accepted' read read'
      used used' := by
    obtain ⟨_, carried, _⟩ := verify_iff.mp accepted
    obtain ⟨_, carried', _⟩ := verify_iff.mp accepted'
    rw [read, Option.some.injEq, Prod.mk.injEq] at carried
    rw [read', Option.some.injEq, Prod.mk.injEq] at carried'
    obtain ⟨rfl, tagged⟩ := carried
    obtain ⟨rfl, tagged'⟩ := carried'
    exact tag_injective injective used used' (tagged.symm.trans tagged')

/-- `KEY` of the source's tests -/
def testKey : SigningKey := Vector.replicate 32 0xAB

/-- HMAC-SHA256 of `"snap-A.1900"` under `testKey` -/
def snapATag : Tag :=
  #v[80, 165, 227, 193, 7, 235, 165, 192, 150, 79, 198, 107, 152, 156, 105, 121,
    241, 185, 104, 64, 86, 107, 177, 167, 118, 230, 140, 194, 190, 244, 3, 246]

/-- HMAC-SHA256 of `"snap-B.1900"` under `testKey` -/
def snapBTag : Tag :=
  #v[158, 180, 68, 7, 99, 113, 22, 120, 49, 101, 123, 252, 183, 19, 231, 105,
    29, 250, 197, 183, 35, 82, 243, 155, 234, 218, 88, 236, 168, 172, 166, 80]

/-- The MAC under `testKey`, as computed for these two messages. -/
def recordedHmac (_ : SigningKey) (bytes : List UInt8) : Tag :=
  if bytes = message "snap-A" 1900 then snapATag
  else if bytes = message "snap-B" 1900 then snapBTag
  else Vector.replicate tagLen 0

theorem presigned_tokens_bind_recorded :
    Binds recordedHmac {(testKey, message "snap-A" 1900), (testKey, message "snap-B" 1900)} := by
  have apart : message "snap-B" 1900 ≠ message "snap-A" 1900 := fun same =>
    absurd (message_injective same).1 (by decide)
  have first : recordedHmac testKey (message "snap-A" 1900) = snapATag := if_pos rfl
  have second : recordedHmac testKey (message "snap-B" 1900) = snapBTag :=
    (if_neg apart).trans (if_pos rfl)
  have differ : snapATag ≠ snapBTag := by decide
  refine presigned_tokens_bind ?_
  rintro _ (rfl | rfl) _ (rfl | rfl) same
  · rfl
  · exact absurd (first.symm.trans (same.trans second)) differ
  · exact absurd (first.symm.trans (same.symm.trans second)) differ
  · rfl

end ConsumerEngine.Ingress
