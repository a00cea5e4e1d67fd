import Mathlib.Algebra.Group.Int.Defs
import Mathlib.Algebra.GroupWithZero.Nat
import Mathlib.Data.Set.Function
import Mathlib.Data.List.Basic
import Mathlib.Data.List.TakeDrop

/-!
The seal of a backup. A package is a header, which carries what the key is derived
from, and a body that is sealed under that key with the header as its additional
data. Who reads it finds the parts again by their offsets, in bytes that may have
been altered.
-/
namespace Riscdom.Backup

abbrev Bytes := List UInt8

/-- Bytes of a fixed number. -/
abbrev Block (n : Nat) : Type := { bytes : Bytes // bytes.length = n }

def PACKAGE_MAGIC : Bytes := [82, 68, 66, 65, 75, 49, 0, 0]
def SALT_LEN : Nat := 16
def NONCE_LEN : Nat := 12
def HEADER_LEN : Nat := PACKAGE_MAGIC.length + SALT_LEN + NONCE_LEN + 4
def KEY_LEN : Nat := 32
def PBKDF2_ITERATIONS : UInt32 := 210000

inductive BackupError
  | Io (error : String)
  | Json (error : String)
  | Archive (error : String)
  | Audit (error : String)
  | Random
  | Cipher
  | PassphraseOrTampered
  | Malformed (why : String)
deriving DecidableEq

/-! ### Bytes -/

def to_le_bytes (n : UInt32) : Bytes := (List.range 4).map fun i => UInt8.ofNat (n.toNat / 256 ^ i)

def from_le_bytes (bytes : Bytes) : UInt32 := UInt32.ofNat (bytes.foldr (fun byte rest => byte.toNat + 256 * rest) 0)

theorem to_le_bytes_length (n : UInt32) : (to_le_bytes n).length = 4 := rfl

theorem from_to_le_bytes (n : UInt32) : from_le_bytes (to_le_bytes n) = n := by
  have small := n.toNat_lt
  apply UInt32.toNat_inj.mp
  have written : to_le_bytes n = [UInt8.ofNat n.toNat, UInt8.ofNat (n.toNat / 256), UInt8.ofNat (n.toNat / 65536),
      UInt8.ofNat (n.toNat / 16777216)] := by
    simp [to_le_bytes, List.range_succ]
  simp only [written, from_le_bytes, List.foldr_cons, List.foldr_nil, UInt32.toNat_ofNat', UInt8.toNat_ofNat']
  omega

/-- A range of the bytes, or nothing, where taking it would panic. -/
def slice (bytes : Bytes) (start stop : Nat) : Option Bytes :=
  if start ≤ stop ∧ stop ≤ bytes.length then some ((bytes.drop start).take (stop - start)) else none

/-! ### The cipher -/

/-- An authenticated cipher: sealing may refuse what is too long, opening refuses what it does not recognise. -/
structure Aead (Key : Type) where
  seal_in_place : Key → Bytes → Bytes → Bytes → Option Bytes
  open_in_place : Key → Bytes → Bytes → Bytes → Option Bytes

/-- A call of the cipher that sealed something. -/
structure Sealing (Key : Type) where
  key : Key
  nonce : Bytes
  aad : Bytes
  plaintext : Bytes

namespace Aead
variable {Key : Type} (aead : Aead Key)

/-- What was sealed is opened by the same key, nonce and additional data. -/
def Correct : Prop := ∀ key nonce aad plaintext body, aead.seal_in_place key nonce aad plaintext = some body →
  aead.open_in_place key nonce aad body = some plaintext

/-- Nothing is opened but what was sealed, under the key, the nonce and the additional data that it was sealed with. -/
def Authenticates (sealed : List (Sealing Key)) : Prop := ∀ key nonce aad body plaintext,
  aead.open_in_place key nonce aad body = some plaintext →
    ⟨key, nonce, aad, plaintext⟩ ∈ sealed ∧ aead.seal_in_place key nonce aad plaintext = some body

end Aead

/-! ### Packages -/

abbrev Key := Block KEY_LEN

section
variable (aead : Aead Key) (pbkdf2 : Bytes → Bytes → UInt32 → Key)

def derive_key (phrase salt : Bytes) (iterations : UInt32) : Except BackupError Key :=
  if iterations = 0 then .error .Cipher else .ok (pbkdf2 phrase salt iterations)

def sealing_key (key_bytes : Key) : Except BackupError Key :=
  if key_bytes.val.length = KEY_LEN then .ok key_bytes else .error .Cipher

def header (salt : Block SALT_LEN) (nonce : Block NONCE_LEN) : Bytes :=
  PACKAGE_MAGIC ++ salt.val ++ nonce.val ++ to_le_bytes PBKDF2_ITERATIONS

/-- What the random source answers. -/
structure Draws where
  salt : Option (Block SALT_LEN)
  nonce : Option (Block NONCE_LEN)

def encrypt (draws : Draws) (plaintext phrase : Bytes) : Except BackupError Bytes :=
  match draws.salt, draws.nonce with
  | some salt, some nonce => do
    let key_bytes ← derive_key pbkdf2 phrase salt.val PBKDF2_ITERATIONS
    let sealing ← sealing_key key_bytes
    match aead.seal_in_place sealing nonce.val (header salt nonce) plaintext with
    | some body => .ok (header salt nonce ++ body)
    | none => .error .Cipher
  | _, _ => .error .Random

/-- What the parts of a package are opened to. -/
def open_parts (phrase salt nonce iterations header body : Bytes) : Except BackupError Bytes := do
  let key_bytes ← derive_key pbkdf2 phrase salt (from_le_bytes iterations)
  let opening ← sealing_key key_bytes
  match aead.open_in_place opening nonce header body with
  | some plaintext => .ok plaintext
  | none => .error .PassphraseOrTampered

/-- The plaintext of a package, or why there is none; nothing, where reading it would panic. -/
def decrypt (package phrase : Bytes) : Option (Except BackupError Bytes) := do
  if package.length < HEADER_LEN then return .error (.Malformed "shorter than its own header")
  if (← slice package 0 PACKAGE_MAGIC.length) ≠ PACKAGE_MAGIC then return .error (.Malformed "the magic does not match")
  let at_salt := PACKAGE_MAGIC.length
  let salt ← slice package at_salt (at_salt + SALT_LEN)
  let at_nonce := at_salt + SALT_LEN
  let nonce ← slice package at_nonce (at_nonce + NONCE_LEN)
  if nonce.length ≠ NONCE_LEN then return .error (.Malformed "the nonce is the wrong length")
  let at_rounds := at_nonce + NONCE_LEN
  let iterations ← slice package at_rounds (at_rounds + 4)
  if iterations.length ≠ 4 then return .error (.Malformed "the round count is the wrong length")
  let header ← slice package 0 HEADER_LEN
  let body ← slice package HEADER_LEN package.length
  return open_parts aead pbkdf2 phrase salt nonce iterations header body

end

/-! ### What is read of a package -/

section
variable {aead : Aead Key} {pbkdf2 : Bytes → Bytes → UInt32 → Key}

theorem slice_inside {bytes : Bytes} {start stop : Nat} (order : start ≤ stop) (inside : stop ≤ bytes.length) :
    slice bytes start stop = some ((bytes.drop start).take (stop - start)) := if_pos ⟨order, inside⟩

@[simp] theorem sealing_key_ok (key : Key) : sealing_key key = .ok key := if_pos key.property

/-- Bytes that are too short, or begin with something else, are refused. -/
theorem decrypt_foreign {package phrase : Bytes}
    (foreign : package.length < HEADER_LEN ∨ package.take PACKAGE_MAGIC.length ≠ PACKAGE_MAGIC) :
    ∃ why, decrypt aead pbkdf2 package phrase = some (.error (.Malformed why)) := by
  unfold decrypt
  by_cases short : package.length < HEADER_LEN
  · exact ⟨_, by rw [if_pos short]; rfl⟩
  · rcases foreign with short' | other
    · exact absurd short' short
    · have long : PACKAGE_MAGIC.length ≤ package.length := by
        have longer : PACKAGE_MAGIC.length ≤ HEADER_LEN := by decide
        omega
      refine ⟨"the magic does not match", ?_⟩
      rw [if_neg short, slice_inside (Nat.zero_le _) long]
      simp only [List.drop_zero, Nat.sub_zero, Option.bind_eq_bind, Option.bind_some, Option.pure_def]
      rw [if_pos other]

theorem slice_append {before part after : Bytes} {start stop : Nat} (begins : start = before.length)
    (ends : stop = before.length + part.length) : slice (before ++ part ++ after) start stop = some part := by
  subst begins ends
  rw [slice_inside (by omega) (by simp)]
  simp

/-- The parts of a package are read at their offsets, all of them inside. -/
theorem decrypt_parts {salt nonce rounds body phrase : Bytes} (salt_length : salt.length = SALT_LEN)
    (nonce_length : nonce.length = NONCE_LEN) (rounds_length : rounds.length = 4) :
    decrypt aead pbkdf2 (PACKAGE_MAGIC ++ salt ++ nonce ++ rounds ++ body) phrase =
      some (open_parts aead pbkdf2 phrase salt nonce rounds (PACKAGE_MAGIC ++ salt ++ nonce ++ rounds) body) := by
  generalize whole : PACKAGE_MAGIC ++ salt ++ nonce ++ rounds ++ body = package
  have salt_at : (PACKAGE_MAGIC ++ salt).length = PACKAGE_MAGIC.length + SALT_LEN := by rw [List.length_append, salt_length]
  have nonce_at : (PACKAGE_MAGIC ++ salt ++ nonce).length = PACKAGE_MAGIC.length + SALT_LEN + NONCE_LEN := by
    rw [List.length_append, salt_at, nonce_length]
  have header_at : (PACKAGE_MAGIC ++ salt ++ nonce ++ rounds).length = HEADER_LEN := by
    rw [List.length_append, nonce_at, rounds_length, HEADER_LEN]
  have long : ¬ package.length < HEADER_LEN := by
    rw [← whole, List.length_append, header_at]
    omega
  have magic_read : slice package 0 PACKAGE_MAGIC.length = some PACKAGE_MAGIC := by
    rw [← whole, List.append_assoc, List.append_assoc, List.append_assoc]
    exact @slice_append [] _ _ _ _ rfl (Nat.zero_add _).symm
  have salt_read : slice package PACKAGE_MAGIC.length (PACKAGE_MAGIC.length + SALT_LEN) = some salt := by
    rw [← whole, List.append_assoc, List.append_assoc]
    exact slice_append rfl (by rw [salt_length])
  have nonce_read : slice package (PACKAGE_MAGIC.length + SALT_LEN) (PACKAGE_MAGIC.length + SALT_LEN + NONCE_LEN) =
      some nonce := by
    rw [← whole, List.append_assoc]
    exact slice_append salt_at.symm (by rw [salt_at, nonce_length])
  have rounds_read : slice package (PACKAGE_MAGIC.length + SALT_LEN + NONCE_LEN)
      (PACKAGE_MAGIC.length + SALT_LEN + NONCE_LEN + 4) = some rounds := by
    rw [← whole]
    exact slice_append nonce_at.symm (by rw [nonce_at, rounds_length])
  have header_read : slice package 0 HEADER_LEN = some (PACKAGE_MAGIC ++ salt ++ nonce ++ rounds) := by
    rw [← whole]
    exact @slice_append [] (PACKAGE_MAGIC ++ salt ++ nonce ++ rounds) _ _ _ rfl (by rw [header_at]; exact (Nat.zero_add _).symm)
  have body_read : slice package HEADER_LEN package.length = some body := by
    have ends : package.length = (PACKAGE_MAGIC ++ salt ++ nonce ++ rounds).length + body.length := by
      rw [← whole, List.length_append]
    rw [ends, ← whole, ← List.append_nil (PACKAGE_MAGIC ++ salt ++ nonce ++ rounds ++ body)]
    exact slice_append header_at.symm rfl
  unfold decrypt
  simp only [if_neg long, magic_read, salt_read, nonce_read, rounds_read, header_read, body_read, Option.bind_eq_bind,
    Option.bind_some, Option.pure_def, nonce_length, rounds_length, ne_eq, not_true_eq_false, if_false]

/-- Bytes that are not foreign are a package of some parts. -/
theorem parts_exist {package : Bytes} (long : ¬ package.length < HEADER_LEN)
    (magic : package.take PACKAGE_MAGIC.length = PACKAGE_MAGIC) :
    ∃ salt nonce rounds body, package = PACKAGE_MAGIC ++ salt ++ nonce ++ rounds ++ body ∧ salt.length = SALT_LEN ∧
      nonce.length = NONCE_LEN ∧ rounds.length = 4 := by
  have enough : 8 + 16 + 12 + 4 ≤ package.length := not_lt.mp long
  refine ⟨(package.drop PACKAGE_MAGIC.length).take SALT_LEN,
    ((package.drop PACKAGE_MAGIC.length).drop SALT_LEN).take NONCE_LEN,
    (((package.drop PACKAGE_MAGIC.length).drop SALT_LEN).drop NONCE_LEN).take 4,
    (((package.drop PACKAGE_MAGIC.length).drop SALT_LEN).drop NONCE_LEN).drop 4, ?_, ?_, ?_, ?_⟩
  · calc package = package.take PACKAGE_MAGIC.length ++ package.drop PACKAGE_MAGIC.length := (List.take_append_drop _ _).symm
      _ = PACKAGE_MAGIC ++ package.drop PACKAGE_MAGIC.length := by rw [magic]
      _ = _ := by simp only [List.append_assoc, List.take_append_drop]
  · simp only [List.length_take, List.length_drop, PACKAGE_MAGIC, List.length_cons, List.length_nil, SALT_LEN]
    omega
  · simp only [List.length_take, List.length_drop, PACKAGE_MAGIC, List.length_cons, List.length_nil, SALT_LEN, NONCE_LEN]
    omega
  · simp only [List.length_take, List.length_drop, PACKAGE_MAGIC, List.length_cons, List.length_nil, SALT_LEN, NONCE_LEN]
    omega

/-- Reading a package does not panic. -/
theorem decrypt_answers (aead : Aead Key) (pbkdf2 : Bytes → Bytes → UInt32 → Key) (package phrase : Bytes) :
    ∃ answer, decrypt aead pbkdf2 package phrase = some answer := by
  by_cases foreign : package.length < HEADER_LEN ∨ package.take PACKAGE_MAGIC.length ≠ PACKAGE_MAGIC
  · obtain ⟨why, refused⟩ := @decrypt_foreign aead pbkdf2 package phrase foreign
    exact ⟨_, refused⟩
  · obtain ⟨long, magic⟩ := not_or.mp foreign
    obtain ⟨salt, nonce, rounds, body, rfl, salt_length, nonce_length, rounds_length⟩ := parts_exist long (not_not.mp magic)
    exact ⟨_, decrypt_parts salt_length nonce_length rounds_length⟩

theorem derive_key_iterations (phrase salt : Bytes) :
    derive_key pbkdf2 phrase salt PBKDF2_ITERATIONS = .ok (pbkdf2 phrase salt PBKDF2_ITERATIONS) := if_neg (by decide)

/-- What a package was made of. -/
theorem encrypt_ok {salt : Block SALT_LEN} {nonce : Block NONCE_LEN} {plaintext phrase package : Bytes}
    (made : encrypt aead pbkdf2 ⟨some salt, some nonce⟩ plaintext phrase = .ok package) :
    ∃ body, package = header salt nonce ++ body ∧
      aead.seal_in_place (pbkdf2 phrase salt.val PBKDF2_ITERATIONS) nonce.val (header salt nonce) plaintext = some body := by
  simp only [encrypt, derive_key_iterations, sealing_key_ok, bind, Except.bind] at made
  cases sealed : aead.seal_in_place (pbkdf2 phrase salt.val PBKDF2_ITERATIONS) nonce.val (header salt nonce) plaintext with
  | none =>
    rw [sealed] at made
    cases made
  | some body =>
    rw [sealed] at made
    cases made
    exact ⟨body, rfl, rfl⟩

theorem encrypt_sealed {salt : Block SALT_LEN} {nonce : Block NONCE_LEN} {plaintext phrase body : Bytes}
    (sealed : aead.seal_in_place (pbkdf2 phrase salt.val PBKDF2_ITERATIONS) nonce.val (header salt nonce) plaintext = some body) :
    encrypt aead pbkdf2 ⟨some salt, some nonce⟩ plaintext phrase = .ok (header salt nonce ++ body) := by
  simp only [encrypt, derive_key_iterations, sealing_key_ok, bind, Except.bind, sealed]

/-- A package under its own passphrase is opened as it was sealed. -/
theorem decrypt_own (salt : Block SALT_LEN) (nonce : Block NONCE_LEN) (body phrase : Bytes) :
    decrypt aead pbkdf2 (header salt nonce ++ body) phrase =
      some (match aead.open_in_place (pbkdf2 phrase salt.val PBKDF2_ITERATIONS) nonce.val (header salt nonce) body with
        | some plaintext => .ok plaintext
        | none => .error .PassphraseOrTampered) := by
  rw [header, decrypt_parts salt.property nonce.property (to_le_bytes_length _), open_parts, from_to_le_bytes,
    derive_key_iterations]
  simp only [sealing_key_ok, bind, Except.bind]

end

/-! ### What the seal holds -/

/-- A package that was made. -/
structure Package (aead : Aead Key) (pbkdf2 : Bytes → Bytes → UInt32 → Key) where
  phrase : Bytes
  plaintext : Bytes
  salt : Block SALT_LEN
  nonce : Block NONCE_LEN
  bytes : Bytes
  made : encrypt aead pbkdf2 ⟨some salt, some nonce⟩ plaintext phrase = .ok bytes

variable {aead : Aead Key} {pbkdf2 : Bytes → Bytes → UInt32 → Key}

/-- The call of the cipher that a package was made by. -/
def Package.sealing (package : Package aead pbkdf2) : Sealing Key :=
  ⟨pbkdf2 package.phrase package.salt.val PBKDF2_ITERATIONS, package.nonce.val, header package.salt package.nonce,
    package.plaintext⟩

/-- The derivation tells the phrases, with every salt and number of rounds. -/
def Distinct (pbkdf2 : Bytes → Bytes → UInt32 → Key) (phrases : List Bytes) : Prop :=
  Set.InjOn (fun given : Bytes × Bytes × UInt32 => pbkdf2 given.1 given.2.1 given.2.2)
    { given | given.1 ∈ phrases ∧ given.2.1.length = SALT_LEN }

/-- What the cipher opened, where parts are opened. -/
theorem open_parts_ok {phrase salt nonce rounds header body plaintext : Bytes}
    (opened : open_parts aead pbkdf2 phrase salt nonce rounds header body = .ok plaintext) :
    aead.open_in_place (pbkdf2 phrase salt (from_le_bytes rounds)) nonce header body = some plaintext := by
  unfold open_parts derive_key at opened
  by_cases zero : from_le_bytes rounds = 0
  · rw [if_pos zero] at opened
    cases opened
  · simp only [if_neg zero, sealing_key_ok, bind, Except.bind] at opened
    split at opened
    · rename_i found
      cases opened
      exact found
    · cases opened

/-- What opens is a package that was made under the same passphrase. -/
theorem opened_made {packages : List (Package aead pbkdf2)} (authentic : aead.Authenticates (packages.map Package.sealing))
    (distinct : Distinct pbkdf2 (packages.map Package.phrase)) {phrase altered plaintext : Bytes}
    (known : phrase ∈ packages.map Package.phrase) (opened : decrypt aead pbkdf2 altered phrase = some (.ok plaintext)) :
    ∃ package ∈ packages, package.phrase = phrase ∧ altered = package.bytes := by
  have native : ¬ (altered.length < HEADER_LEN ∨ altered.take PACKAGE_MAGIC.length ≠ PACKAGE_MAGIC) := by
    intro foreign
    obtain ⟨why, refused⟩ := @decrypt_foreign aead pbkdf2 altered phrase foreign
    rw [refused] at opened
    cases opened
  obtain ⟨long, magic⟩ := not_or.mp native
  obtain ⟨salt, nonce, rounds, body, rfl, salt_length, nonce_length, rounds_length⟩ := parts_exist long (not_not.mp magic)
  rw [decrypt_parts salt_length nonce_length rounds_length, Option.some.injEq] at opened
  obtain ⟨member, resealed⟩ := authentic _ _ _ _ _ (open_parts_ok opened)
  obtain ⟨package, inside, same⟩ := List.mem_map.mp member
  simp only [Package.sealing, Sealing.mk.injEq] at same
  obtain ⟨key, nonce', header', plaintext'⟩ := same
  have given : (package.phrase, package.salt.val, PBKDF2_ITERATIONS) = (phrase, salt, from_le_bytes rounds) :=
    distinct ⟨List.mem_map_of_mem inside, package.salt.property⟩ ⟨known, salt_length⟩ key
  obtain ⟨own, bytes, sealed⟩ := encrypt_ok package.made
  rw [key, nonce', header', plaintext', resealed] at sealed
  cases sealed
  exact ⟨package, inside, congrArg Prod.fst given, by rw [bytes, header']⟩

/-- A package opens to what was sealed; and nothing else opens under its passphrase but what was made under it, whatever of the
    package is changed, left out or added, and reading it does not panic. -/
theorem seal_holds (aead : Aead Key) (pbkdf2 : Bytes → Bytes → UInt32 → Key) :
    (aead.Correct → ∀ (salt : Block SALT_LEN) (nonce : Block NONCE_LEN) (plaintext phrase : Bytes),
      (aead.seal_in_place (pbkdf2 phrase salt.val PBKDF2_ITERATIONS) nonce.val (header salt nonce) plaintext).isSome →
      ∃ package, encrypt aead pbkdf2 ⟨some salt, some nonce⟩ plaintext phrase = .ok package ∧
        decrypt aead pbkdf2 package phrase = some (.ok plaintext)) ∧
    (∀ packages : List (Package aead pbkdf2), aead.Authenticates (packages.map Package.sealing) →
      Distinct pbkdf2 (packages.map Package.phrase) → ∀ package ∈ packages, ∀ altered : Bytes,
      (∀ other ∈ packages, other.phrase = package.phrase → altered ≠ other.bytes) →
      ∃ error, decrypt aead pbkdf2 altered package.phrase = some (.error error)) := by
  constructor
  · intro correct salt nonce plaintext phrase accepted
    obtain ⟨body, sealed⟩ := Option.isSome_iff_exists.mp accepted
    refine ⟨_, encrypt_sealed sealed, ?_⟩
    rw [decrypt_own, correct _ _ _ _ _ sealed]
  · intro packages authentic distinct package inside altered other
    obtain ⟨answer, answered⟩ := decrypt_answers aead pbkdf2 altered package.phrase
    cases answer with
    | error error => exact ⟨error, answered⟩
    | ok plaintext =>
      have known : package.phrase ∈ packages.map Package.phrase := List.mem_map_of_mem inside
      obtain ⟨made, there, phrase, same⟩ := opened_made authentic distinct known answered
      exact absurd same (other made there phrase)

/-! ### One package under a cipher that knows it alone -/

/-- A key that spells the salt and the rounds. -/
def spelled_key (_phrase salt : Bytes) (rounds : UInt32) : Key :=
  if fits : (salt ++ (to_le_bytes rounds ++ List.replicate 12 0)).length = KEY_LEN then ⟨_, fits⟩
  else ⟨List.replicate KEY_LEN 0, List.length_replicate⟩

def zero_salt : Block SALT_LEN := ⟨List.replicate SALT_LEN 0, List.length_replicate⟩
def zero_nonce : Block NONCE_LEN := ⟨List.replicate NONCE_LEN 0, List.length_replicate⟩

def known_sealing : Sealing Key := ⟨spelled_key [1] zero_salt.val PBKDF2_ITERATIONS, zero_nonce.val, header zero_salt zero_nonce, [7]⟩

def known_body : Bytes := List.replicate 17 1

def one_seal : Aead Key where
  seal_in_place key nonce aad plaintext :=
    if key = known_sealing.key ∧ nonce = known_sealing.nonce ∧ aad = known_sealing.aad ∧ plaintext = known_sealing.plaintext then
      some known_body
    else none
  open_in_place key nonce aad body :=
    if key = known_sealing.key ∧ nonce = known_sealing.nonce ∧ aad = known_sealing.aad ∧ body = known_body then
      some known_sealing.plaintext
    else none

theorem one_seal_sealed : one_seal.seal_in_place (spelled_key [1] zero_salt.val PBKDF2_ITERATIONS) zero_nonce.val
    (header zero_salt zero_nonce) [7] = some known_body := by
  simp [one_seal, known_sealing]

def known_package : Package one_seal spelled_key :=
  ⟨[1], [7], zero_salt, zero_nonce, header zero_salt zero_nonce ++ known_body, encrypt_sealed one_seal_sealed⟩

theorem one_seal_correct : one_seal.Correct := by
  intro key nonce aad plaintext body sealed
  simp only [one_seal, Option.ite_none_right_eq_some] at sealed ⊢
  obtain ⟨⟨key, nonce, aad, plaintext⟩, body⟩ := sealed
  exact ⟨⟨key, nonce, aad, (Option.some.inj body).symm⟩, by rw [plaintext]⟩

theorem one_seal_authentic : one_seal.Authenticates [known_package.sealing] := by
  intro key nonce aad body plaintext opened
  simp only [one_seal, Option.ite_none_right_eq_some] at opened ⊢
  obtain ⟨⟨rfl, rfl, rfl, rfl⟩, same⟩ := opened
  cases same
  exact ⟨List.mem_singleton_self _, ⟨rfl, rfl, rfl, rfl⟩, rfl⟩

theorem spelled_key_distinct : Distinct spelled_key [[1]] := by
  rintro ⟨phrase, salt, rounds⟩ ⟨known, length⟩ ⟨phrase', salt', rounds'⟩ ⟨known', length'⟩ same
  dsimp only at known length known' length' same
  rw [List.mem_singleton] at known known'
  have spelled : ∀ (salt : Bytes) (rounds : UInt32), salt.length = SALT_LEN →
      (spelled_key [1] salt rounds).val = salt ++ (to_le_bytes rounds ++ List.replicate 12 0) := by
    intro salt rounds length
    have fits : (salt ++ (to_le_bytes rounds ++ List.replicate 12 0)).length = KEY_LEN := by
      rw [List.length_append, length]
      rfl
    rw [spelled_key, dif_pos fits]
  subst known known'
  have texts := congrArg Subtype.val same
  rw [spelled salt rounds length, spelled salt' rounds' length'] at texts
  obtain ⟨salts, rest⟩ := List.append_inj texts (length.trans length'.symm)
  obtain ⟨numbers, -⟩ := List.append_inj rest rfl
  have equal : rounds = rounds' := by rw [← from_to_le_bytes rounds, numbers, from_to_le_bytes]
  rw [salts, equal]

/-- The package opens, and with a byte more it does not. -/
theorem known_package_held :
    decrypt one_seal spelled_key known_package.bytes [1] = some (.ok [7]) ∧
      ∃ error, decrypt one_seal spelled_key (known_package.bytes ++ [0]) [1] = some (.error error) := by
  have held := seal_holds one_seal spelled_key
  constructor
  · obtain ⟨package, made, opened⟩ := held.1 one_seal_correct zero_salt zero_nonce [7] [1] (by rw [one_seal_sealed]; rfl)
    have same : package = known_package.bytes := Except.ok.inj (made.symm.trans known_package.made)
    rw [← same]
    exact opened
  · refine held.2 [known_package] one_seal_authentic spelled_key_distinct known_package (List.mem_singleton_self _) _ ?_
    intro other only _ same
    rw [List.mem_singleton.mp only] at same
    have lengths := congrArg List.length same
    rw [List.length_append] at lengths
    simp at lengths

end Riscdom.Backup
