import Mathlib.Data.List.Basic
import Mathlib.Logic.Function.Iterate

/-!
The secret box of NaCl on bytes: the message is encrypted with XSalsa20 and authenticated
with Poly1305. A box is the nonce, the tag and the encrypted message; the key of the tag
is the first half of the first block of the stream. What is encrypted opens again with the
same key (`decrypt_encrypt`).
-/
namespace Automation.SecretBox

abbrev Word := BitVec 32

/-- The number of bytes that stand with the lowest first. -/
def littleEndian (bytes : List UInt8) : Nat := bytes.foldr (fun byte value => byte.toNat + 256 * value) 0

/-- A number in so many bytes, the lowest first. -/
def bytesOf : Nat → Nat → List UInt8
  | 0, _ => []
  | n + 1, value => UInt8.ofNat value :: bytesOf n (value / 256)

/-- So many words of a text. -/
def words : Nat → List UInt8 → List Word
  | 0, _ => []
  | n + 1, bytes => BitVec.ofNat 32 (littleEndian (bytes.take 4)) :: words n (bytes.drop 4)

def wordBytes (text : List Word) : List UInt8 := text.flatMap fun word => bytesOf 4 word.toNat

def quarterround (s : List Word) (at0 at1 at2 at3 : Nat) : List Word :=
  let z1 := s.getD at1 0 ^^^ (s.getD at0 0 + s.getD at3 0).rotateLeft 7
  let z2 := s.getD at2 0 ^^^ (z1 + s.getD at0 0).rotateLeft 9
  let z3 := s.getD at3 0 ^^^ (z2 + z1).rotateLeft 13
  let z0 := s.getD at0 0 ^^^ (z3 + z2).rotateLeft 18
  (((s.set at0 z0).set at1 z1).set at2 z2).set at3 z3

/-- The columns and then the rows of the square of words. -/
def doubleround (s : List Word) : List Word :=
  let s := quarterround (quarterround (quarterround (quarterround s 0 4 8 12) 5 9 13 1) 10 14 2 6) 15 3 7 11
  quarterround (quarterround (quarterround (quarterround s 0 1 2 3) 5 6 7 4) 10 11 8 9) 15 12 13 14

def rounds (s : List Word) : List Word := Nat.iterate doubleround 10 s

/-- The constants, the key and the input of sixteen bytes in the square. -/
def expand (key input : List UInt8) : List Word :=
  0x61707865 :: words 4 key ++ 0x3320646e :: words 4 input ++ 0x79622d32 :: words 4 (key.drop 16) ++ [0x6b206574]

def salsa20 (key input : List UInt8) : List UInt8 :=
  let s := expand key input
  wordBytes (List.zipWith (· + ·) s (rounds s))

def hsalsa20 (key input : List UInt8) : List UInt8 :=
  let z := rounds (expand key input)
  wordBytes ([0,5,10,15,6,7,8,9].map fun place => z.getD place 0)

/-- The stream of XSalsa20, so many blocks of sixty-four bytes. -/
def stream (key nonce : List UInt8) (blocks : Nat) : List UInt8 :=
  let subkey := hsalsa20 key (nonce.take 16)
  (List.range blocks).flatMap fun n => salsa20 subkey (nonce.drop 16 ++ bytesOf 8 n)

/-- The sum over the pieces of sixteen bytes. -/
def evaluate (r : Nat) : Nat → Nat → List UInt8 → Nat
  | 0, sum, _ => sum
  | n + 1, sum, message =>
    evaluate r n ((sum + littleEndian (message.take 16 ++ [1])) * r % (2 ^ 130 - 5)) (message.drop 16)

def poly1305 (key message : List UInt8) : List UInt8 :=
  let r := littleEndian (key.take 16) &&& 0x0ffffffc0ffffffc0ffffffc0fffffff
  bytesOf 16 (evaluate r ((message.length + 15) / 16) 0 message + littleEndian (key.drop 16))

def NONCE_SIZE : Nat := 24

abbrev Nonce := {bytes : List UInt8 // bytes.length = NONCE_SIZE}

/-- The stream for a message of so many bytes: the key of the tag and what is added to the message. -/
def pad_stream (key nonce : List UInt8) (length : Nat) : List UInt8 × List UInt8 :=
  let bytes := stream key nonce ((length + 95) / 64)
  (bytes.take 32,(bytes.drop 32).take length)

/-- A byte that the stream does not reach stays as it is; it reaches them all. -/
def mask : List UInt8 → List UInt8 → List UInt8
  | byte :: bytes, key :: keys => (byte ^^^ key) :: mask bytes keys
  | bytes, _ => bytes

def encrypt (key plaintext : List UInt8) (nonce : Nonce) : List UInt8 :=
  let pad := pad_stream key nonce plaintext.length
  let ciphertext := mask plaintext pad.2
  nonce ++ poly1305 pad.1 ciphertext ++ ciphertext

/-- Nothing where the box is too short or its tag is another one. -/
def decrypt (key box : List UInt8) : Option (List UInt8) :=
  let nonce := box.take NONCE_SIZE
  let tag := (box.drop NONCE_SIZE).take 16
  let ciphertext := box.drop (NONCE_SIZE + 16)
  let pad := pad_stream key nonce ciphertext.length
  if NONCE_SIZE + 16 ≤ box.length ∧ tag = poly1305 pad.1 ciphertext then some (mask ciphertext pad.2) else none

@[simp] theorem bytesOf_length (n value : Nat) : (bytesOf n value).length = n := by
  induction n generalizing value with
  | zero => rfl
  | succ n ih => rw [bytesOf,List.length_cons,ih]

@[simp] theorem mask_length (bytes keys : List UInt8) : (mask bytes keys).length = bytes.length := by
  induction bytes generalizing keys with
  | nil => rfl
  | cons byte bytes ih =>
    cases keys with
    | nil => rfl
    | cons key keys => rw [mask,List.length_cons,ih,List.length_cons]

@[simp] theorem mask_mask (bytes keys : List UInt8) : mask (mask bytes keys) keys = bytes := by
  induction bytes generalizing keys with
  | nil => rfl
  | cons byte bytes ih =>
    cases keys with
    | nil => rfl
    | cons key keys => rw [mask,mask,ih,UInt8.xor_assoc,UInt8.xor_self,UInt8.xor_zero]

@[simp] theorem poly1305_length (key message : List UInt8) : (poly1305 key message).length = 16 := bytesOf_length _ _

theorem encrypt_ne_nil (key plaintext : List UInt8) (nonce : Nonce) : encrypt key plaintext nonce ≠ [] := by
  intro empty
  have length := congrArg List.length empty
  simp only [encrypt,List.length_append,nonce.2,List.length_nil] at length
  exact absurd length (by simp [NONCE_SIZE])

theorem decrypt_encrypt (key plaintext : List UInt8) (nonce : Nonce) :
    decrypt key (encrypt key plaintext nonce) = some plaintext := by
  have size : nonce.1.length = NONCE_SIZE := nonce.2
  have front : (encrypt key plaintext nonce).take NONCE_SIZE = nonce.1 := by
    rw [encrypt,List.append_assoc,List.take_left' size]
  have behind : (encrypt key plaintext nonce).drop NONCE_SIZE =
      poly1305 (pad_stream key nonce plaintext.length).1 (mask plaintext (pad_stream key nonce plaintext.length).2) ++
        mask plaintext (pad_stream key nonce plaintext.length).2 := by
    rw [encrypt,List.append_assoc,List.drop_left' size]
  have rest : (encrypt key plaintext nonce).drop (NONCE_SIZE + 16) =
      mask plaintext (pad_stream key nonce plaintext.length).2 := by
    rw [← List.drop_drop,behind,List.drop_left' (poly1305_length _ _)]
  have long : NONCE_SIZE + 16 ≤ (encrypt key plaintext nonce).length := by
    simp only [encrypt,List.length_append,size,poly1305_length]
    omega
  rw [decrypt]
  simp only [front,rest,mask_length,mask_mask]
  rw [if_pos ⟨long,by rw [behind,List.take_left' (poly1305_length _ _)]⟩]

/-- The published vector of `crypto_secretbox`. -/
example : encrypt (bytesOf 32 0x8983f64408eec406f27464ac9e540960c7469a7a1951cd62d485e9736455271b)
    (bytesOf 48 0x29616c5ed428c71a1a75bd33afbaece5fc4f24649b84664bd4cb624c2ac528527b0cebeb161314cfd5f2813cc55f07be ++
      bytesOf 48 0xde1faf218f834a028a31b1d66a55f6e2578034a17f3aeace6df0460c25e83b0e31db4a31ce6cb61df4613523013cdc6c ++
      bytesOf 35 0x05075e6448387637f982e040708976bc89a0f0522e90601cca2449fd9ff548eb778904)
    ⟨bytesOf 24 0x370b7a6b03e01982d673fc75a8bd62cd732bb655e96e6969,bytesOf_length _ _⟩ =
      bytesOf 24 0x370b7a6b03e01982d673fc75a8bd62cd732bb655e96e6969 ++
      bytesOf 48 0x6a18a131c5b86f47a4964d16a72e3348ce76fc32ba5096c2731268489f3b998ed905333d4bfb7d2ae500943f70c7fff3 ++
      bytesOf 48 0xae26e548451632b98acca714e3ee8eb43817d563b86f0d27e28f929b0fc2d27172c948ec11f0a74d7be8dc987cc1dfc0 ++
      bytesOf 48 0x745ab44c651f9b59a6143da422f67379b3f9d5889e4a2456deb601ca612b8399dae9c02b73b36bbdeacf7a5168432290 ++
      bytesOf 3 0xa555e3 := by
  decide +kernel

end Automation.SecretBox
