import Automation.Sha256

/-!
Python's `str`: a sequence of code points, in which a surrogate may stand alone. The texts
without surrogates are the strings (`ofString_iff`), and only these have an encoding.
-/
namespace Automation.CodePoints

abbrev CodePoint := Fin 0x110000

abbrev Text := List CodePoint

/-- A character is below the surrogates or above them. -/
theorem char_range (c : Char) : c.toNat < 0xD800 ∨ 0xDFFF < c.toNat ∧ c.toNat < 0x110000 := c.valid

theorem char_bound (c : Char) : c.toNat < 0x110000 := by
  rcases char_range c with low | high
  · omega
  · exact high.2

def point (c : Char) : CodePoint := ⟨c.toNat,char_bound c⟩

def ofString (text : String) : Text := text.toList.map point

def isSurrogate (p : CodePoint) : Bool := 0xD800 ≤ p.val && p.val ≤ 0xDFFF

def isAscii (p : CodePoint) : Bool := p.val < 128

/-- The string of the same code points. -/
def string? (text : Text) : Option String :=
  if text.any isSurrogate then none else some (.ofList (text.map fun p => Char.ofNat p.val))

/-- `text.encode("utf-8")`, `none` for a `UnicodeEncodeError`. -/
def encode (text : Text) : Option (List UInt8) := (string? text).map Sha256.utf8

theorem point_solid (c : Char) : isSurrogate (point c) = false := by
  have range := char_range c
  simp only [isSurrogate,point,Bool.and_eq_false_iff]
  rcases range with low | high
  · exact .inl (decide_eq_false (by omega))
  · exact .inr (decide_eq_false (by omega))

theorem ofNat_point (c : Char) : Char.ofNat (point c).val = c := Char.ofNat_toNat c

theorem point_ofNat {p : CodePoint} (solid : isSurrogate p = false) : point (Char.ofNat p.val) = p := by
  have valid : Nat.isValidChar p.val := by
    rcases Bool.and_eq_false_iff.mp solid with low | high
    · exact .inl (Nat.not_le.mp (of_decide_eq_false low))
    · exact .inr ⟨Nat.not_le.mp (of_decide_eq_false high),p.isLt⟩
  refine Fin.ext ?_
  change (Char.ofNat p.val).toNat = p.val
  rw [Char.ofNat,dif_pos valid]
  rfl

theorem string?_ofString (text : String) : string? (ofString text) = some text := by
  have solid : (ofString text).any isSurrogate = false := by
    rw [List.any_eq_false]
    intro p member
    obtain ⟨c,-,rfl⟩ := List.mem_map.mp member
    rw [point_solid]
    exact Bool.false_ne_true
  have same : (ofString text).map (fun p => Char.ofNat p.val) = text.toList := by
    rw [ofString,List.map_map]
    exact (List.map_congr_left fun c _ => ofNat_point c).trans (List.map_id _)
  rw [string?,solid,if_neg Bool.false_ne_true,same,String.ofList_toList]

theorem ofString_iff {text : Text} {s : String} : string? text = some s ↔ text = ofString s := by
  constructor
  · intro found
    unfold string? at found
    split at found
    · cases found
    · next solid =>
      cases found
      rw [ofString,String.toList_ofList,List.map_map]
      refine ((List.map_congr_left fun p member => ?_).trans (List.map_id _)).symm
      have each := List.any_eq_false.mp (by simpa using solid) p member
      exact point_ofNat (by simpa using each)
  · rintro rfl
    exact string?_ofString s

theorem ofString_inj {s t : String} (same : ofString s = ofString t) : s = t := by
  have found := string?_ofString s
  rw [same,string?_ofString] at found
  exact (Option.some.inj found).symm

theorem encode_ofString (text : String) : encode (ofString text) = some (Sha256.utf8 text) := by
  rw [encode,string?_ofString,Option.map_some]

theorem encode_isSome (text : Text) : (encode text).isSome = !text.any isSurrogate := by
  unfold encode string?
  cases text.any isSurrogate with
  | false => rfl
  | true => rfl

theorem toList_loop (bytes : ByteArray) (i : Nat) (gathered : List UInt8) (inside : i ≤ bytes.size) :
    ByteArray.toList.loop bytes i gathered = gathered.reverse ++ bytes.data.toList.drop i := by
  have length : bytes.data.toList.length = bytes.size := rfl
  rw [ByteArray.toList.loop]
  by_cases more : i < bytes.size
  · have byte : bytes.get! i = bytes.data.toList.get ⟨i,by omega⟩ := by
      simp only [ByteArray.get!]
      exact getElem!_pos bytes.data i more
    rw [if_pos more,toList_loop bytes (i + 1) _ (by omega),byte,List.get_eq_getElem,List.reverse_cons,List.append_assoc,
      List.singleton_append,← List.drop_eq_getElem_cons]
  · rw [if_neg more,List.drop_eq_nil_of_le (by omega),List.append_nil]
termination_by bytes.size - i

theorem utf8_ofList (chars : List Char) : Sha256.utf8 (.ofList chars) = chars.flatMap String.utf8EncodeChar := by
  change (String.ofList chars).toByteArray.toList = _
  rw [ByteArray.toList,toList_loop _ 0 [] (Nat.zero_le _)]
  simp [String.ofList,List.utf8Encode]

/-- The bytes of a text without surrogates are those of its characters. -/
theorem encode_points {text : Text} (solid : text.any isSurrogate = false) :
    encode text = some (text.flatMap fun p => String.utf8EncodeChar (.ofNat p.val)) := by
  rw [encode,string?,if_neg (by rw [solid]; exact Bool.false_ne_true),Option.map_some,utf8_ofList,List.flatMap_map]

end Automation.CodePoints
