/-
Module: Playhouse.Lexicon.Bundled
Purpose: The word lists that come with the library.
Main exports: bundledWords
-/
import Playhouse.Category

namespace Playhouse

/-- The surface words of every class, in the order in which they are listed. -/
def bundledWords : Category → List String
  | .article =>
      ["a", "an", "the"]
  | .be =>
      ["am", "are", "art", "be", "is"]
  | .character =>
      ["Achilles", "Adonis", "Adriana", "Aegeon", "Aemilia", "Agamemnon", "Agrippa", "Ajax",
        "Alonso", "Andromache", "Angelo", "Antiochus", "Antonio", "Arthur", "Autolycus",
        "Balthazar", "Banquo", "Beatrice", "Benedick", "Benvolio", "Bianca", "Brabantio", "Brutus",
        "Capulet", "Cassandra", "Cassius", "Christopher Sly", "Cicero", "Claudio", "Claudius",
        "Cleopatra", "Cordelia", "Cornelius", "Cressida", "Cymberline", "Demetrius", "Desdemona",
        "Dionyza", "Doctor Caius", "Dogberry", "Don John", "Don Pedro", "Donalbain", "Dorcas",
        "Duncan", "Egeus", "Emilia", "Escalus", "Falstaff", "Fenton", "Ferdinand", "Ford",
        "Fortinbras", "Francisca", "Friar John", "Friar Laurence", "Gertrude", "Goneril", "Hamlet",
        "Hecate", "Hector", "Helen", "Helena", "Hermia", "Hermonie", "Hippolyta", "Horatio",
        "Imogen", "Isabella", "John of Gaunt", "John of Lancaster", "Julia", "Juliet",
        "Julius Caesar", "King Henry", "King John", "King Lear", "King Richard", "Lady Capulet",
        "Lady Macbeth", "Lady Macduff", "Lady Montague", "Lennox", "Leonato", "Luciana", "Lucio",
        "Lychorida", "Lysander", "Macbeth", "Macduff", "Malcolm", "Mariana", "Mark Antony",
        "Mercutio", "Miranda", "Mistress Ford", "Mistress Overdone", "Mistress Page", "Montague",
        "Mopsa", "Oberon", "Octavia", "Octavius Caesar", "Olivia", "Ophelia", "Orlando", "Orsino",
        "Othello", "Page", "Pantino", "Paris", "Pericles", "Pinch", "Polonius", "Pompeius",
        "Portia", "Priam", "Prince Henry", "Prospero", "Proteus", "Publius", "Puck", "Queen Elinor",
        "Regan", "Robin", "Romeo", "Rosalind", "Sebastian", "Shallow", "Shylock", "Slender",
        "Solinus", "Stephano", "Thaisa", "The Abbot of Westminster", "The Apothecary",
        "The Archbishop of Canterbury", "The Duke of Milan", "The Duke of Venice", "The Ghost",
        "Theseus", "Thurio", "Timon", "Titania", "Titus", "Troilus", "Tybalt", "Ulysses",
        "Valentine", "Venus", "Vincentio", "Viola"]
  | .firstPerson =>
      ["I", "me"]
  | .firstPersonPossessive =>
      ["mine", "my"]
  | .firstPersonReflexive =>
      ["myself"]
  | .negativeAdjective =>
      ["bad", "cowardly", "cursed", "damned", "dirty", "disgusting", "distasteful", "dusty",
        "evil", "fat", "fat-kidneyed", "fatherless", "foul", "hairy", "half-witted", "horrible",
        "horrid", "infected", "lying", "miserable", "misused", "oozing", "rotten", "smelly",
        "snotty", "sorry", "stinking", "stuffed", "stupid", "vile", "villainous", "worried"]
  | .negativeComparative =>
      ["punier", "smaller", "worse"]
  | .negativeNoun =>
      ["Hell", "Microsoft", "bastard", "beggar", "blister", "codpiece", "coward", "curse", "death",
        "devil", "draught", "famine", "flirt-gill", "goat", "hate", "hog", "hound", "leech", "lie",
        "plague", "starvation", "toad", "war", "wolf"]
  | .neutralAdjective =>
      ["big", "black", "blue", "bluest", "bottomless", "furry", "green", "hard", "huge", "large",
        "little", "normal", "old", "purple", "red", "rural", "small", "tiny", "white", "yellow"]
  | .neutralNoun =>
      ["animal", "aunt", "brother", "cat", "chihuahua", "cousin", "cow", "daughter", "door",
        "face", "father", "fellow", "granddaughter", "grandfather", "grandmother", "grandson",
        "hair", "hamster", "horse", "lamp", "lantern", "mistletoe", "moon", "morning", "mother",
        "nephew", "niece", "nose", "pig", "purse", "road", "roman", "sister", "sky", "son",
        "squirrel", "stone wall", "thing", "town", "tree", "uncle", "wind"]
  | .nothing =>
      ["nothing", "zero"]
  | .positiveAdjective =>
      ["amazing", "beautiful", "blossoming", "bold", "brave", "charming", "clearest", "cunning",
        "cute", "delicious", "embroidered", "fair", "fine", "gentle", "golden", "good", "handsome",
        "happy", "healthy", "honest", "lovely", "loving", "mighty", "noble", "peaceful", "pretty",
        "prompt", "proud", "reddest", "rich", "smooth", "sunny", "sweet", "sweetest", "trustworthy",
        "warm"]
  | .positiveComparative =>
      ["better", "bigger", "fresher", "friendlier", "nicer", "jollier"]
  | .positiveNoun =>
      ["Heaven", "King", "Lord", "angel", "flower", "happiness", "joy", "plum", "summer's day",
        "hero", "rose", "kingdom", "pony"]
  | .secondPerson =>
      ["thee", "thou", "you"]
  | .secondPersonPossessive =>
      ["thine", "thy", "your"]
  | .secondPersonReflexive =>
      ["thyself", "yourself"]
  | .thirdPersonPossessive =>
      ["his", "her", "its", "their"]

end Playhouse
