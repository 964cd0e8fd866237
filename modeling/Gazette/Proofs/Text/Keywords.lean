import Gazette.Proofs.Chars.Pieces
import Gazette.Text.Keywords

/-!
# Keywords of several texts

`Text.keywords` cuts a text at its commas first. So the keywords of texts that `Text.joinWith` puts together
with commas are those of the one text in front of those of the other.
-/

namespace Gazette

namespace Text

/-- `Text.splitOn ","` is `Chars.splitAtChar ','`. -/
theorem splitOn_comma (s : String) : splitOn "," s = (Chars.splitAtChar ',' s.toList).map String.ofList := rfl

/-- `keywords` of two texts with a comma between them are those of both. -/
theorem keywords_append_comma (cs ds : List Char) : keywords (String.ofList (cs ++ ',' :: ds)) =
    keywords (String.ofList cs) ++ keywords (String.ofList ds) := by
  simp only [keywords, splitOn_comma, String.toList_ofList, Chars.splitAtChar_append_cons, List.map_append,
    List.filter_append]

/-- `keywords` of what `joinWith ","` puts together are those of all texts, one after the other. -/
theorem keywords_joinWith (texts : List String) : keywords (joinWith "," texts) = (texts.map keywords).flatten := by
  induction texts with
  | nil => decide +kernel
  | cons s texts ih =>
    cases texts with
    | nil => simp [joinWith, Chars.joinWith]
    | cons t texts =>
      have row : joinWith "," (s :: t :: texts) =
          String.ofList (s.toList ++ ',' :: (joinWith "," (t :: texts)).toList) := by
        simp [joinWith, Chars.joinWith]
      rw [row, keywords_append_comma, String.ofList_toList, String.ofList_toList, ih]
      rfl

end Text

end Gazette
