import SharedSeq.Text.Ranges

/-!
# Blank characters

The characters with the property `White_Space` of the Unicode standard, and the trimming of a text
on both sides.
-/

namespace SharedSeq.Text

/-- The code points with the property `White_Space`. -/
def blanks : Ranges :=
  [(0x9, 0xD), (0x20, 0x20), (0x85, 0x85), (0xA0, 0xA0), (0x1680, 0x1680), (0x2000, 0x200A),
    (0x2028, 0x2029), (0x202F, 0x202F), (0x205F, 0x205F), (0x3000, 0x3000)]

def isBlank (c : Char) : Bool := blanks.contains c

/-- A text without the white space at its two ends. -/
def trim (cs : List Char) : List Char :=
  ((cs.dropWhile isBlank).reverse.dropWhile isBlank).reverse

/-- Characters that are no white space stay where they are, with all that stands between them. -/
theorem trim_append_cons {c d : Char} (cs ds : List Char) (hc : isBlank c = false) (hd : isBlank d = false) :
    ∃ tail, trim (c :: cs ++ d :: ds) = c :: (cs ++ d :: tail) := by
  refine ⟨(ds.reverse.dropWhile isBlank).reverse, ?_⟩
  have hfront : (c :: cs ++ d :: ds).dropWhile isBlank = c :: cs ++ d :: ds := by simp [hc]
  have hback : (c :: cs ++ d :: ds).reverse = ds.reverse ++ d :: (c :: cs).reverse := by simp
  rw [trim, hfront, hback, List.dropWhile_append]
  split
  · rename_i h
    rw [List.isEmpty_iff] at h
    simp [hd, h]
  · simp

end SharedSeq.Text
