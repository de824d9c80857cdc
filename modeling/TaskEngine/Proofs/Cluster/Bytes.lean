import TaskEngine.Cluster.Stores
import TaskEngine.Proofs.Json.Records

/-!
# Bytes in text form and texts in bytes

A text goes into a map of bytes as its UTF-8 bytes, and bytes go into JSON as base64. Both ways lead
back.
-/

namespace TaskEngine

namespace Base64

/-- Every number below sixty-four is read back from its character. -/
theorem value?_digit {n : Nat} (h : n < 64) : value? (digit n) = some n := by
  revert n
  decide

/-- The filling is no character of the alphabet. -/
theorem digit_ne_fill {n : Nat} (h : n < 64) : digit n ≠ '=' := by
  intro he
  have hvalue := value?_digit h
  rw [he] at hvalue
  cases hvalue

/-- A full group is read back without the filling in mind. -/
theorem decode?_group {w x y z : Char} (hz : z ≠ '=') (rest : List Char) :
    decode? (w :: x :: y :: z :: rest) = (do
      let n := (((← value? w) * 64 + (← value? x)) * 64 + (← value? y)) * 64 + (← value? z)
      let bytes ← decode? rest
      some (UInt8.ofNat (n / 65536) :: UInt8.ofNat (n / 256 % 256) :: UInt8.ofNat (n % 256) ::
        bytes)) := by
  rw [decode?]
  · exact fun _ h => absurd h hz
  · exact fun h => absurd h hz

/-- A byte is what its number makes. -/
theorem ofNat_eq (b : UInt8) {n : Nat} (h : n = b.toNat) : UInt8.ofNat n = b := by
  rw [h, UInt8.ofNat_toNat]

/-- Bytes are read back from their text. -/
theorem decode?_encode (bytes : List UInt8) : decode? (encode bytes) = some bytes := by
  induction bytes using encode.induct with
  | case1 => rfl
  | case2 a =>
    have ha : a.toNat < 256 := a.toNat_lt
    have hn : a.toNat * 16 / 64 * 64 + a.toNat * 16 % 64 = a.toNat * 16 := by omega
    rw [encode, decode?, value?_digit (by omega), value?_digit (by omega)]
    simp only [Option.bind_eq_bind, Option.bind_some, hn]
    rw [if_pos (by omega), ofNat_eq a (by omega)]
  | case3 a b =>
    have ha : a.toNat < 256 := a.toNat_lt
    have hb : b.toNat < 256 := b.toNat_lt
    generalize hn : (a.toNat * 256 + b.toNat) * 4 = n
    have hjoined : (n / 4096 * 64 + n / 64 % 64) * 64 + n % 64 = n := by omega
    rw [encode]
    simp only [hn]
    rw [decode?, value?_digit (by omega), value?_digit (by omega), value?_digit (by omega)]
    · simp only [Option.bind_eq_bind, Option.bind_some, hjoined]
      rw [if_pos (by omega), ofNat_eq a (by omega), ofNat_eq b (by omega)]
    · exact digit_ne_fill (by omega)
  | case4 a b c rest ih =>
    have ha : a.toNat < 256 := a.toNat_lt
    have hb : b.toNat < 256 := b.toNat_lt
    have hc : c.toNat < 256 := c.toNat_lt
    generalize hn : (a.toNat * 256 + b.toNat) * 256 + c.toNat = n
    have hjoined : ((n / 262144 * 64 + n / 4096 % 64) * 64 + n / 64 % 64) * 64 + n % 64 = n := by
      omega
    rw [encode]
    simp only [hn]
    rw [decode?_group (digit_ne_fill (by omega)), value?_digit (by omega), value?_digit (by omega),
      value?_digit (by omega), value?_digit (by omega), ih]
    simp only [Option.bind_eq_bind, Option.bind_some, hjoined]
    rw [ofNat_eq a (by omega), ofNat_eq b (by omega), ofNat_eq c (by omega)]

end Base64

namespace Cluster

/-- The UTF-8 bytes of a text. -/
def utf8Bytes (text : String) : List UInt8 := text.toUTF8.data.toList

/-- A text is read back from its bytes. -/
theorem fromUTF8?_utf8Bytes (text : String) :
    String.fromUTF8? ⟨(utf8Bytes text).toArray⟩ = some text := by
  have hbytes : (⟨(utf8Bytes text).toArray⟩ : ByteArray) = text.toUTF8 := rfl
  rw [hbytes]
  simp [String.fromUTF8?, String.fromUTF8, text.isValidUTF8]

/-- Bytes are read back from JSON. -/
theorem Secret.decodeBytes_encodeBytes (bytes : List UInt8) :
    Secret.decodeBytes (Secret.encodeBytes bytes) = .ok bytes := by
  rw [encodeBytes, decodeBytes, String.toList_ofList, Base64.decode?_encode]

/-- The texts of a map of bytes that holds texts. -/
theorem Secret.readTexts_utf8Bytes (name : String) (entries : List (String × String)) :
    Secret.readTexts name (entries.map fun entry => (entry.1, utf8Bytes entry.2)) =
      .ok entries := by
  induction entries with
  | nil => rfl
  | cons entry rest ih =>
    rw [List.map_cons, readTexts, fromUTF8?_utf8Bytes, ih]
    rfl

/-- The secret that is read from a map of bytes that holds texts only. -/
theorem Secret.record_utf8Bytes (name : String) {s : Secret} {secret : Record}
    (hdata : s.data.getD ∅ = secret.map utf8Bytes) (hfolded : s.stringData.getD ∅ = ∅) :
    s.record name = .ok secret := by
  rw [Secret.record, hdata, hfolded]
  have htexts : readTexts name (secret.map utf8Bytes).toList = .ok secret.toList :=
    readTexts_utf8Bytes name secret.entries
  rw [htexts]
  exact congrArg Except.ok (Dict.ofList_eq fun _ _ => Dict.mem_toList)

end Cluster

end TaskEngine
