import Colloquy.Discussion.Insert

/-!
# A sample discussion

A small discussion to try the program on without a backend.
-/

namespace Colloquy.Discussion

/-- A comment of the sample. -/
private def sampleComment (id : CommentId) (author body label : String) (score : Int64) : Comment :=
  ⟨id, author, body, label, score, false⟩

/-- The threads of the sample discussion, nobody marked as the author of the post. -/
def sampleThreads : List Thread :=
  [⟨sampleComment 1 "audiophile_king"
      "This is exactly what I was looking for! The transition from track 3 to 4 is legendary."
      "2 hours ago" 450,
    [⟨sampleComment 11 "music_fan_99"
        "Glad you liked it! It took me forever to find that specific cover."
        "1 hour ago" 120,
      [⟨sampleComment 111 "random_user" "Do you have a Soundcloud link for it?"
          "30 mins ago" 5, []⟩]⟩,
     ⟨sampleComment 12 "hater_101" "Unpopular opinion: The original was better."
        "50 mins ago" (-12), []⟩]⟩,
   ⟨sampleComment 2 "coding_wizard"
      "Can someone explain the context of the third song? I feel like I'm missing something."
      "5 hours ago" 89,
    [⟨sampleComment 21 "lore_master"
        "It's a reference to the 2008 incident where the lead singer..."
        "3 hours ago" 230, []⟩]⟩]

end Colloquy.Discussion
