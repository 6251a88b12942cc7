import Mathlib.Data.List.Basic

/-!
SHA-256 and HMAC-SHA256 on bytes, as `hashlib` and `hmac` compute them. A message is padded
to blocks of sixteen words; each block is stretched to sixty-four words and mixed into the
eight words of the state.
-/
namespace Automation.Sha256

abbrev Word := BitVec 32

/-- The round constants. -/
def K : List Word :=
  [0x428a2f98,0x71374491,0xb5c0fbcf,0xe9b5dba5,0x3956c25b,0x59f111f1,0x923f82a4,0xab1c5ed5,
    0xd807aa98,0x12835b01,0x243185be,0x550c7dc3,0x72be5d74,0x80deb1fe,0x9bdc06a7,0xc19bf174,
    0xe49b69c1,0xefbe4786,0x0fc19dc6,0x240ca1cc,0x2de92c6f,0x4a7484aa,0x5cb0a9dc,0x76f988da,
    0x983e5152,0xa831c66d,0xb00327c8,0xbf597fc7,0xc6e00bf3,0xd5a79147,0x06ca6351,0x14292967,
    0x27b70a85,0x2e1b2138,0x4d2c6dfc,0x53380d13,0x650a7354,0x766a0abb,0x81c2c92e,0x92722c85,
    0xa2bfe8a1,0xa81a664b,0xc24b8b70,0xc76c51a3,0xd192e819,0xd6990624,0xf40e3585,0x106aa070,
    0x19a4c116,0x1e376c08,0x2748774c,0x34b0bcb5,0x391c0cb3,0x4ed8aa4a,0x5b9cca4f,0x682e6ff3,
    0x748f82ee,0x78a5636f,0x84c87814,0x8cc70208,0x90befffa,0xa4506ceb,0xbef9a3f7,0xc67178f2]

/-- The eight words of the state. -/
structure State where
  a : Word
  b : Word
  c : Word
  d : Word
  e : Word
  f : Word
  g : Word
  h : Word
  deriving DecidableEq

def initial : State where
  a := 0x6a09e667
  b := 0xbb67ae85
  c := 0x3c6ef372
  d := 0xa54ff53a
  e := 0x510e527f
  f := 0x9b05688c
  g := 0x1f83d9ab
  h := 0x5be0cd19

def State.words (s : State) : List Word := [s.a,s.b,s.c,s.d,s.e,s.f,s.g,s.h]

def round (s : State) (input : Word × Word) : State :=
  let sum1 := s.e.rotateRight 6 ^^^ s.e.rotateRight 11 ^^^ s.e.rotateRight 25
  let choice := (s.e &&& s.f) ^^^ (~~~s.e &&& s.g)
  let first := s.h + sum1 + choice + input.1 + input.2
  let sum0 := s.a.rotateRight 2 ^^^ s.a.rotateRight 13 ^^^ s.a.rotateRight 22
  let majority := (s.a &&& s.b) ^^^ (s.a &&& s.c) ^^^ (s.b &&& s.c)
  { a := first + (sum0 + majority), b := s.a, c := s.b, d := s.c, e := s.d + first, f := s.e, g := s.f, h := s.g }

/-- The words of a block and those that follow them, from a window of sixteen. -/
def schedule : Nat → List Word → List Word
  | 0, _ => []
  | n + 1, window =>
    match window with
    | [] => []
    | first :: rest =>
      let near := rest.getD 0 0
      let late := rest.getD 13 0
      let next := first + (near.rotateRight 7 ^^^ near.rotateRight 18 ^^^ near >>> 3) + rest.getD 8 0 +
        (late.rotateRight 17 ^^^ late.rotateRight 19 ^^^ late >>> 10)
      first :: schedule n (rest ++ [next])

def compress (s : State) (block : List Word) : State :=
  let t := (K.zip (schedule 64 block)).foldl round s
  { a := s.a + t.a, b := s.b + t.b, c := s.c + t.c, d := s.d + t.d
    e := s.e + t.e, f := s.f + t.f, g := s.g + t.g, h := s.h + t.h }

def wordOf (bytes : List UInt8) : Word := BitVec.ofNat 32 (bytes.foldl (fun value byte => value * 256 + byte.toNat) 0)

/-- `n` pieces of so many each. -/
def pieces {α : Type} (size : Nat) : Nat → List α → List (List α)
  | 0, _ => []
  | n + 1, items => items.take size :: pieces size n (items.drop size)

/-- A number in so many bytes, the highest first. -/
def bigEndian : Nat → Nat → List UInt8
  | 0, _ => []
  | n + 1, value => UInt8.ofNat (value / 256 ^ n) :: bigEndian n value

/-- The message, a bit, zeros to the last eight bytes of a block, and the length in bits. -/
def pad (message : List UInt8) : List UInt8 :=
  message ++ 0x80 :: List.replicate ((119 - message.length % 64) % 64) 0 ++ bigEndian 8 (8 * message.length)

def sha256 (message : List UInt8) : List UInt8 :=
  let padded := pad message
  let blocks := (pieces 64 (padded.length / 64) padded).map fun block => (pieces 4 16 block).map wordOf
  (blocks.foldl compress initial).words.flatMap fun word => bigEndian 4 word.toNat

def hexDigit (n : Nat) : Char := (Nat.toDigits 16 n).headD '0'

/-- `digest.hex()`. -/
def hex (digest : List UInt8) : String :=
  .ofList (digest.flatMap fun byte => [hexDigit (byte.toNat / 16),hexDigit (byte.toNat % 16)])

/-- `value.encode("utf-8")`. -/
def utf8 (value : String) : List UInt8 := value.toUTF8.toList

def hexdigest (message : List UInt8) : String := hex (sha256 message)

/-- The key in a block of its own: longer ones are hashed first. -/
def blockKey (key : List UInt8) : List UInt8 :=
  let short := if 64 < key.length then sha256 key else key
  short ++ List.replicate (64 - short.length) 0

/-- `hmac.new(key, message, sha256).digest()`. -/
def hmac (key message : List UInt8) : List UInt8 :=
  let block := blockKey key
  sha256 (block.map (· ^^^ 0x5c) ++ sha256 (block.map (· ^^^ 0x36) ++ message))

example : hexdigest [0x61,0x62,0x63] = "ba7816bf8f01cfea414140de5dae2223b00361a396177a9cb410ff61f20015ad" := by decide +kernel

theorem hexDigit_inj : ∀ n < 16, ∀ m < 16, hexDigit n = hexDigit m → n = m := by decide

theorem hex_inj {digest other : List UInt8} (same : hex digest = hex other) : digest = other := by
  have chars := String.ofList_injective same
  induction digest generalizing other with
  | nil =>
    cases other with
    | nil => rfl
    | cons byte other => cases chars
  | cons byte digest ih =>
    cases other with
    | nil => cases chars
    | cons byte' other =>
      simp only [List.flatMap_cons,List.cons_append,List.nil_append,List.cons.injEq] at chars
      obtain ⟨high,low,rest⟩ := chars
      have highs := hexDigit_inj _ (by have := byte.toNat_lt; omega) _ (by have := byte'.toNat_lt; omega) high
      have lows := hexDigit_inj _ (by omega) _ (by omega) low
      have bytes : byte = byte' := UInt8.toNat_inj.mp (by omega)
      rw [bytes,ih (by rw [hex,hex,rest]) rest]

theorem hex_ascii (digest : List UInt8) {c : Char} (member : c ∈ (hex digest).toList) : c.toNat < 128 := by
  have digit : ∀ n < 16, (hexDigit n).toNat < 128 := by decide
  rw [hex,String.toList_ofList,List.mem_flatMap] at member
  obtain ⟨byte,-,here⟩ := member
  have small := byte.toNat_lt
  obtain rfl | rfl : c = hexDigit (byte.toNat / 16) ∨ c = hexDigit (byte.toNat % 16) := by simpa using here
  · exact digit _ (by omega)
  · exact digit _ (by omega)

theorem sha256_ne_nil (message : List UInt8) : sha256 message ≠ [] := by
  unfold sha256 State.words
  exact List.cons_ne_nil _ _

theorem hex_ne {digest : List UInt8} (some : digest ≠ []) : hex digest ≠ "" := by
  cases digest with
  | nil => exact absurd rfl some
  | cons byte digest =>
    intro empty
    have chars := String.ofList_eq_empty_iff.mp empty
    simp at chars

end Automation.Sha256
