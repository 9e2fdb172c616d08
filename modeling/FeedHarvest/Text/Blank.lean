/-!
# Blank characters

Blank is Unicode's `White_Space` property, not the ASCII class: feeds carry no-break and ideographic
spaces. Text is cut into *words*, the maximal runs of characters that are not blank; squishing joins
the words with single spaces, so it removes blanks at both ends and shortens every run inside.
-/

namespace FeedHarvest.Text

/-- The characters of Unicode's `White_Space` property. -/
def isBlank (c : Char) : Bool :=
  let n := c.toNat
  (9 ≤ n && n ≤ 13) || n == 0x20 || n == 0x85 || n == 0xA0 || n == 0x1680 ||
    (0x2000 ≤ n && n ≤ 0x200A) || n == 0x2028 || n == 0x2029 || n == 0x202F || n == 0x205F ||
    n == 0x3000

def trimStart (cs : List Char) : List Char := cs.dropWhile isBlank

/-- The text without its trailing blanks. -/
def trimEnd (cs : List Char) : List Char := (cs.reverse.dropWhile isBlank).reverse

/-- The text without blanks at either end. -/
def trim (cs : List Char) : List Char := trimEnd (trimStart cs)

/-- The maximal runs of characters that are not blank, in order. -/
def words : List Char → List (List Char)
  | [] => []
  | c :: cs =>
    if isBlank c then words cs
    else (c :: cs.takeWhile (!isBlank ·)) :: words (cs.dropWhile (!isBlank ·))
termination_by cs => cs.length
decreasing_by
  · simp
  · exact Nat.lt_succ_of_le (List.dropWhile_suffix _).length_le

def squish (cs : List Char) : List Char := [' '].intercalate (words cs)

@[simp] theorem words_nil : words [] = [] := words.eq_def []

theorem words_cons_of_isBlank {c : Char} {cs : List Char} (h : isBlank c = true) :
    words (c :: cs) = words cs := by
  rw [words.eq_def]
  exact if_pos h

theorem words_cons_of_not_isBlank {c : Char} {cs : List Char} (h : isBlank c = false) :
    words (c :: cs) =
      (c :: cs.takeWhile (!isBlank ·)) :: words (cs.dropWhile (!isBlank ·)) := by
  rw [words.eq_def]
  exact if_neg (by simp [h])

end FeedHarvest.Text
