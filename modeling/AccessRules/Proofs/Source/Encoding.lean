import AccessRules.Text.Encoding

/-!
# Plain beginnings are read as UTF-8

Bytes without zeros that begin like a plain character carry no mark of byte order, and no zeros
tell of another encoding. So a text in UTF-8 is read as UTF-8 where the encoding is detected, if it
begins with a plain character and has no zero in it.

* `Encoding.read?_of_plain` — the text that detection leads to.
-/

namespace AccessRules.Text

namespace Utf8

theorem continuation?_eq_some {byte : UInt8} {bits : Nat}
    (read : continuation? byte = some bits) : 0x80 ≤ byte := by
  unfold continuation? at read
  split at read
  · simp_all
  · cases read

theorem charFrom?_eq_some {least code : Nat} {c : Char} (read : charFrom? least code = some c) :
    least ≤ c.toNat := by
  unfold charFrom? at read
  split at read
  next fits =>
      obtain ⟨above, valid⟩ : least ≤ code ∧ code.isValidChar := by simpa using fits
      obtain rfl := Option.some.inj read
      rwa [Char.ofNat, dif_pos valid]
  · cases read

/-- The first character of a text and its bytes: below 128 there is one, which is the code of the
character, and every other character has bytes from 128 on only. -/
theorem decode?_cons_eq_some {a : UInt8} {rest : List UInt8} {text : List Char}
    (read : decode? (a :: rest) = some text) :
    ∃ c others front more, text = c :: others ∧ rest = front ++ more ∧
      decode? more = some others ∧
      (a < 0x80 ∧ front = [] ∧ c = Char.ofNat a.toNat ∨
        0x80 ≤ a ∧ (∀ b ∈ front, 0x80 ≤ b) ∧ 0x80 ≤ c.toNat) := by
  rw [decode?.eq_def] at read
  simp only at read
  by_cases plain : a < 0x80
  · rw [if_pos plain] at read
    obtain ⟨others, decoded, rfl⟩ := Option.map_eq_some_iff.1 read
    exact ⟨_, others, [], rest, rfl, rfl, decoded, Or.inl ⟨plain, rfl, rfl⟩⟩
  rw [if_neg plain] at read
  have high : 0x80 ≤ a := UInt8.not_lt.1 plain
  cases rest with
  | nil => cases read
  | cons b rest =>
      simp only at read
      split at read
      · cases read
      split at read
      · simp only [bind, Option.bind_eq_some_iff, pure, Option.some.injEq] at read
        obtain ⟨first, isFirst, c, char, others, decoded, rfl⟩ := read
        refine ⟨c, others, [b], rest, rfl, rfl, decoded, Or.inr ⟨high, ?_, charFrom?_eq_some char⟩⟩
        simpa using continuation?_eq_some isFirst
      cases rest with
      | nil => cases read
      | cons b' rest =>
          simp only at read
          split at read
          · simp only [bind, Option.bind_eq_some_iff, pure, Option.some.injEq] at read
            obtain ⟨first, isFirst, second, isSecond, c, char, others, decoded, rfl⟩ := read
            refine ⟨c, others, [b, b'], rest, rfl, rfl, decoded, Or.inr ⟨high, ?_, ?_⟩⟩
            · simpa using ⟨continuation?_eq_some isFirst, continuation?_eq_some isSecond⟩
            · exact Nat.le_trans (by decide) (charFrom?_eq_some char)
          cases rest with
          | nil => cases read
          | cons b'' rest =>
              simp only [bind, Option.bind_eq_some_iff, pure, Option.some.injEq] at read
              obtain ⟨first, isFirst, second, isSecond, third, isThird, c, char, others, decoded,
                rfl⟩ := read
              refine ⟨c, others, [b, b', b''], rest, rfl, rfl, decoded, Or.inr ⟨high, ?_, ?_⟩⟩
              · simpa using ⟨continuation?_eq_some isFirst, continuation?_eq_some isSecond,
                  continuation?_eq_some isThird⟩
              · exact Nat.le_trans (by decide) (charFrom?_eq_some char)

/-- A zero among the bytes is a character of its own. -/
theorem zero_mem_of_decode?_eq_some {bytes : List UInt8} {text : List Char}
    (read : decode? bytes = some text) (among : 0 ∈ bytes) : '\x00' ∈ text := by
  match bytes, among with
  | a :: rest, among =>
      obtain ⟨c, others, front, more, rfl, rfl, decoded, first⟩ := decode?_cons_eq_some read
      rw [List.mem_cons, List.mem_append] at among
      obtain here | inFront | behind := among
      · obtain ⟨-, -, rfl⟩ | ⟨high, -, -⟩ := first
        · subst here
          exact List.mem_cons_self
        · subst here
          exact absurd high (by decide)
      · obtain ⟨-, rfl, -⟩ | ⟨-, high, -⟩ := first
        · cases inFront
        · exact absurd (high 0 inFront) (by decide)
      · exact List.mem_cons_of_mem _ (zero_mem_of_decode?_eq_some decoded behind)
termination_by bytes.length

end Utf8

namespace Encoding

/-- Without zeros there is one byte in a unit. -/
theorem ofZeros_of_nonzero {bytes : List UInt8} (nonzero : 0 ∉ bytes) :
    ofZeros bytes = .bytes := by
  unfold ofZeros
  split
  next a b c d rest => grind
  next a b => grind
  · rfl

/-- Every mark begins with a zero or a byte from 128 on. -/
theorem marks_strange : ∀ mark ∈ marks, ∃ byte others, mark.1 = byte :: others ∧
    (byte = 0 ∨ 0x80 ≤ byte) := by
  simp only [marks, List.forall_mem_cons, List.cons.injEq]
  refine ⟨?_, ?_, ?_, ?_, ?_, by simp⟩ <;> exact ⟨_, _, ⟨rfl, rfl⟩, by decide⟩

/-- **A plain beginning is read as UTF-8.** -/
theorem read?_of_plain {bytes : List UInt8} {c : Char} {rest : List Char}
    (read : Utf8.decode? bytes = some (c :: rest)) (plain : c.toNat < 0x80)
    (nonzero : '\x00' ∉ c :: rest) : read? bytes = some (c :: rest) := by
  have noZero : 0 ∉ bytes := mt (Utf8.zero_mem_of_decode?_eq_some read) nonzero
  cases bytes with
  | nil => cases read
  | cons a more =>
      have low : a < 0x80 := by
        obtain ⟨c', others, front, more', same, -, -, first⟩ := Utf8.decode?_cons_eq_some read
        obtain ⟨low, -⟩ | ⟨-, -, high⟩ := first
        · exact low
        · cases same
          omega
      have unmarked : (marks.find? fun mark => mark.1.isPrefixOf (a :: more)) = none := by
        rw [List.find?_eq_none]
        intro mark among begins
        obtain ⟨byte, others, shape, strange⟩ := marks_strange mark among
        rw [shape, List.isPrefixOf_cons_cons, Bool.and_eq_true, beq_iff_eq] at begins
        obtain ⟨rfl, -⟩ := begins
        obtain rfl | high := strange
        · exact noZero List.mem_cons_self
        · exact absurd low (UInt8.not_lt.2 high)
      rw [read?, detect, unmarked]
      simp only [ofZeros_of_nonzero noZero, decode?, read]
      rfl

end Encoding

end AccessRules.Text

namespace AccessRules

/-- The bytes of plain characters. -/
def plainBytes (text : String) : List UInt8 := text.toList.map fun c => c.toNat.toUInt8

end AccessRules
