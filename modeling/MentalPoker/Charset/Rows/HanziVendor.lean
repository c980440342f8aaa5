import MentalPoker.Charset.CharRows

/-!
# Chinese characters of vendors

Runs of neighbours among the numbers of a character set: the first number, its code point, and how
many there are.
-/

namespace MentalPoker.CharRows

/-- Characters of two bytes that are read otherwise, or that are added. -/
def vendorHanzi : List CharRun := [
  ⟨0xA145, 0x2027, 1⟩, ⟨0xA14E, 0xFE51, 1⟩, ⟨0xA1C2, 0xAF, 1⟩, ⟨0xA1E3, 0xFF5E, 1⟩,
  ⟨0xA1F2, 0x2295, 1⟩, ⟨0xA1F3, 0x2299, 1⟩, ⟨0xA241, 0x2215, 1⟩, ⟨0xA242, 0xFE68, 1⟩,
  ⟨0xA244, 0xFFE5, 1⟩, ⟨0xA246, 0xFFE0, 2⟩, ⟨0xA3E1, 0x20AC, 1⟩, ⟨0xF9D6, 0x7881, 1⟩,
  ⟨0xF9D7, 0x92B9, 1⟩, ⟨0xF9D8, 0x88CF, 1⟩, ⟨0xF9D9, 0x58BB, 1⟩, ⟨0xF9DA, 0x6052, 1⟩,
  ⟨0xF9DB, 0x7CA7, 1⟩, ⟨0xF9DC, 0x5AFA, 1⟩, ⟨0xF9DD, 0x2554, 1⟩, ⟨0xF9DE, 0x2566, 1⟩,
  ⟨0xF9DF, 0x2557, 1⟩, ⟨0xF9E0, 0x2560, 1⟩, ⟨0xF9E1, 0x256C, 1⟩, ⟨0xF9E2, 0x2563, 1⟩,
  ⟨0xF9E3, 0x255A, 1⟩, ⟨0xF9E4, 0x2569, 1⟩, ⟨0xF9E5, 0x255D, 1⟩, ⟨0xF9E6, 0x2552, 1⟩,
  ⟨0xF9E7, 0x2564, 1⟩, ⟨0xF9E8, 0x2555, 1⟩, ⟨0xF9E9, 0x255E, 1⟩, ⟨0xF9EA, 0x256A, 1⟩,
  ⟨0xF9EB, 0x2561, 1⟩, ⟨0xF9EC, 0x2558, 1⟩, ⟨0xF9ED, 0x2567, 1⟩, ⟨0xF9EE, 0x255B, 1⟩,
  ⟨0xF9EF, 0x2553, 1⟩, ⟨0xF9F0, 0x2565, 1⟩, ⟨0xF9F1, 0x2556, 1⟩, ⟨0xF9F2, 0x255F, 1⟩,
  ⟨0xF9F3, 0x256B, 1⟩, ⟨0xF9F4, 0x2562, 1⟩, ⟨0xF9F5, 0x2559, 1⟩, ⟨0xF9F6, 0x2568, 1⟩,
  ⟨0xF9F7, 0x255C, 1⟩, ⟨0xF9F8, 0x2551, 1⟩, ⟨0xF9F9, 0x2550, 1⟩, ⟨0xF9FA, 0x256D, 2⟩,
  ⟨0xF9FC, 0x2570, 1⟩, ⟨0xF9FD, 0x256F, 1⟩, ⟨0xF9FE, 0x2593, 1⟩]

end MentalPoker.CharRows
