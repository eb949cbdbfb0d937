import SchemaAccess.Entries
import SchemaAccess.Text.Blank
import SchemaAccess.Text.EmojiTable
import SchemaAccess.Text.LowerCase

namespace SchemaAccess.Text

def emojiEntry (cs : List Char) : String × List Char :=
  let name := cs.takeWhile (· != '=')
  (String.ofList name, cs.drop (name.length + 1))

def emoji : Entries (List Char) := (wordsOf emojiTable.toList).map emojiEntry

/-- How an emoji is to be shown, and the ending of its name that asks for it. -/
def variants : List (String × Char) := [("-emoji", '\ufe0f'), ("-text", '\ufe0e')]

/-- A name without an ending that asks for a variant, and what then follows the emoji. -/
def splitVariant (name : List Char) : List Char × List Char :=
  match variants.find? fun v => v.1.toList.isSuffixOf name with
  | some (ending, selector) => (name.take (name.length - ending.length), [selector])
  | none => (name, [])

def emoji? (name : List Char) : Option (List Char) :=
  let (base, selector) := splitVariant name
  (emoji.find? (lowerCase (String.ofList base))).map (· ++ selector)

/-- A name at the start of a text, up to a colon, and what follows the colon. -/
def emojiName? (cs : List Char) : Option (List Char × List Char) :=
  let name := cs.takeWhile fun c => c != ':' && !isBlankChar c
  match cs.drop name.length with
  | ':' :: rest => some (name, rest)
  | _ => none

/-- Names of no emoji stay, with both of their colons. Each step takes a character at least, so that the
length of the text is fuel enough. -/
def replaceEmoji : Nat → List Char → List Char
  | 0, cs => cs
  | _ + 1, [] => []
  | n + 1, c :: cs =>
    match if c == ':' then emojiName? cs else none with
    | some (name, rest) => (emoji? name).getD (':' :: name ++ [':']) ++ replaceEmoji n rest
    | none => c :: replaceEmoji n cs

def withEmoji (cs : List Char) : List Char := replaceEmoji cs.length cs

end SchemaAccess.Text
