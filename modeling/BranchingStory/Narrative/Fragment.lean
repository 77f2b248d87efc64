import BranchingStory.Markup.Printer
import BranchingStory.Narrative.Character
import BranchingStory.Story.Stage

/-!
# Fragments

The authored story.  The opening brings the player to the table; every character's
thread has an opening, a reply and a closing; the epilogue ends the story.  Fragments
are written as passages and handed on as markup.
-/

namespace BranchingStory

/-- The id of the choice that leaves a thread for the hub. -/
def chooseOtherId : Text := "hub_choose_other"

/-- The id of the choice that ends the story. -/
def endStoryId : Text := "end_story"

/-- What the id of a choice begins with that returns to the hub after a closing. -/
def returnLead : Text := "hub_return_after_"

namespace Fragment

/-- An option of a thread. -/
def option (id text : Text) : Choice := ⟨id, text, false⟩

/-- The option that leaves a thread for the hub. -/
def chooseOther : Choice := option chooseOtherId "Talk to someone else"

/-- The option that returns to the hub when a thread has closed. -/
def returnToHub (c : Character) : Choice := option (returnLead ++ c.id) "Return to the group"

/-- The opening of a character's thread. -/
def openingOf : Character → List Passage
  | .lumine =>
    [.sceneOnLines "Lumine"
       [.action "Concern" "Stepping closer, studying you carefully",
        .say "You look tired. How long have you been traveling?",
        .action "Neutral" "Her voice softening with understanding",
        .say "I know what it's like to search for something... or someone."],
     .choicesOnLines
       [option "lumine_l1_honest" "Be honest about your search",
        option "lumine_l1_deflect" "Deflect politely",
        option "lumine_l1_joke" "Joke to lighten the mood",
        chooseOther]]
  | .zhongli =>
    [.sceneOnLines "Zhongli"
       [.action "Thinking" "Pouring tea with ritual grace",
        .say "Hospitality precedes inquiry. Please."],
     .choicesOnLines
       [option "zhongli_l1_etiquette" "Follow his etiquette carefully",
        option "zhongli_l1_casual" "Drink casually",
        chooseOther]]
  | .tartaglia =>
    [.sceneOnLines "Tartaglia"
       [.action "Confident" "Cracking his knuckles, playful stance",
        .say "Harbor's restless. Do you dance with storms—or hide from them?"],
     .choicesOnLines
       [option "tartaglia_l1_spar" "Accept a friendly spar later",
        option "tartaglia_l1_banter" "Boast back",
        option "tartaglia_l1_intel" "Steer to intel",
        chooseOther]]
  | .venti =>
    [.sceneOnLines "Venti"
       [.action "Happy" "A playful arpeggio dances through the air",
        .say "Old winds hum of locks and keys… and a traveler out of time."],
     .choicesOnLines
       [option "venti_l1_decode" "Ask him to decode the verse",
        option "venti_l1_courage_song" "Request a song for courage",
        chooseOther]]

/-- How a thread goes on after the first answer. -/
def replyOf : Character → List Passage
  | .lumine =>
    [.sceneOnLines "Lumine"
       [.action "Sad" "Her expression grows distant, memories clouding her golden eyes",
        .say "Searching is heavy... but lighter when shared."],
     .choicesOnLines
       [option "lumine_l2_her_journey" "Ask about her journey",
        option "lumine_l2_harbor" "Ask about Liyue Harbor",
        chooseOther]]
  | .zhongli =>
    [.sceneOnLines "Zhongli"
       [.action "Neutral" "Amber eyes reflecting lamplight",
        .say "Ancient pacts fray when memory fades. Liyue stands on promises older than stone."],
     .choicesOnLines
       [option "zhongli_l2_seals" "Ask about the weakening seals",
        option "zhongli_l2_stakeholders" "Ask about the Qixing, adepti, and guilds",
        chooseOther]]
  | .tartaglia =>
    [.sceneOnLines "Tartaglia"
       [.action "Serious" "The grin sharpens to a hunter's focus",
        .say "Pressure shows truth. This city's brimming with it."],
     .choicesOnLines
       [option "tartaglia_l2_clues" "Ask what he's noticed",
        option "tartaglia_l2_tease" "Tease him about theatrics",
        chooseOther]]
  | .venti =>
    [.sceneOnLines "Venti"
       [.action "Thinking" "His cheerful mask slips—something ancient peers through",
        .say "The winds whisper of voices behind stone, and tide-lyrics carved near the waterline."],
     .choicesOnLines
       [option "venti_l2_parse" "Parse the riddle",
        option "venti_l2_more_verse" "Laugh it off and ask for another verse",
        chooseOther]]

/-- How a thread closes after the second answer. -/
def closingOf : Character → List Passage
  | .lumine =>
    [.sceneOnLines "Lumine"
       [.action "Determined" "Clenching her fists with renewed resolve",
        .say "We crossed more worlds than I can count... until an unknown god tore us apart.",
        .action "Hope" "Meeting your gaze",
        .say "Maybe that's why your arrival feels right. Two wanderers searching, side by side."],
     .sceneOnLines "Lumine"
       [.action "Happy" "A gentle smile touches her lips",
        .say "Tea later? Stories go down easier warm."],
     .choicesOnLines
       [returnToHub .lumine]]
  | .zhongli =>
    [.sceneOnLines "Zhongli"
       [.action "Thinking" "Tracing a quiet ring on the table",
        .say "When contracts strain, clarity is currency. Perhaps your arrival fulfills a clause long dormant."],
     .choicesOnLines
       [returnToHub .zhongli]]
  | .tartaglia =>
    [.sceneOnLines "Tartaglia"
       [.action "Confident" "Predatory smile easing back to playful",
        .say "Strange movements in every nation. Old powers stirring… and you smell like trouble I'd like to meet again."],
     .choicesOnLines
       [returnToHub .tartaglia]]
  | .venti =>
    [.sceneOnLines "Venti"
       [.action "Wise" "Twinkle-eyed, conspiratorial",
        .say "When the breeze stalls, sing it forward. Promises made under starlit skies never quite fade."],
     .choicesOnLines
       [returnToHub .venti]]

/-- The passages of a thread at a stage; a thread that is not under way opens. -/
def passages (c : Character) : Stage → List Passage
  | .second => replyOf c
  | .close => closingOf c
  | _ => openingOf c

/-- The markup of a thread at a stage. -/
def text (c : Character) (s : Stage) : Text :=
  Passage.printAll "\n\n" (passages c s)

/-- The passages of the epilogue. -/
def epiloguePassages : List Passage :=
  [.narration "As the evening winds down, warmth and murmurs linger. Threads have been tied—some taut, some left to sway in the night air.",
   .narration "Whatever brought you here is only the prologue. The harbor moon climbs; your path is just beginning."]

/-- The markup of the epilogue. -/
def epilogue : Text :=
  Passage.printAll "\n" epiloguePassages

/-- The passages of the opening. -/
def prologuePassages : List Passage :=
  [.narration "Lanterns sway above the terrace of Wanmin Restaurant as the harbor settles into evening.",
   .narration "Four strangers share a long table, and every one of them seems to have noticed you.",
   .sceneOnOneLine "Lumine" "Surprised" "Looking up from her tea"
     "Oh! You're not from around here either, are you?",
   .sceneOnOneLine "Zhongli" "Thinking" "Setting down his cup with care"
     "A traveler arriving at dusk. There is usually a story behind that.",
   .sceneOnOneLine "Tartaglia" "Confident" "Leaning back with a lopsided grin"
     "Finally, someone new. This table was getting far too polite.",
   .sceneOnOneLine "Venti" "Happy" "Plucking a bright chord on his lyre"
     "Sit, sit! The wind told me we'd have company tonight.",
   .narration "The chair across from them is empty. It seems to be waiting for you."]

/-- The markup of the opening, which ends its last line. -/
def prologue : Text :=
  Passage.printAll "\n" prologuePassages ++ ['\n']

end Fragment

end BranchingStory
