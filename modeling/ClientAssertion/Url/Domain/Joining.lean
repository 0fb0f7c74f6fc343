/-
**Joiners in domain names (RFC 5892, appendix A).**

Two characters that are not seen change how letters of some scripts join.  They may stand where they
change what is seen.

* `joinsWell`: each joiner of a label stands behind a mark that takes the vowel of a consonant away,
  or parts two letters that would join.
-/

import ClientAssertion.Url.Domain.Joining.Table

namespace ClientAssertion.Domain

/-- The joiner that makes letters join. -/
def isJoiner (char : Char) : Bool := char.toNat == 0x200d

/-- The joiner that keeps letters apart. -/
def isDivider (char : Char) : Bool := char.toNat == 0x200c

/-- A letter joins the one that follows it. -/
def joinsNext (char : Char) : Bool := joiningBoth.contains char || joiningLeft.contains char

/-- A letter joins the one before it. -/
def joinsPrevious (char : Char) : Bool := joiningBoth.contains char || joiningRight.contains char

/-- The first of some characters that lets no others join over it has a property. -/
def firstOpaque (hasProperty : Char → Bool) (chars : List Char) : Bool :=
  (chars.dropWhile transparent.contains).head?.any hasProperty

/-- The joiners among characters stand well, with those before them, the last one first. -/
def joinsWell (before : List Char) : List Char → Bool
  | [] => true
  | char :: chars =>
    let isBehindVirama := before.head?.any viramas.contains
    let isWell :=
      if isJoiner char then isBehindVirama
      else if isDivider char then
        isBehindVirama || (firstOpaque joinsNext before && firstOpaque joinsPrevious chars)
      else true
    isWell && joinsWell (char :: before) chars

end ClientAssertion.Domain
