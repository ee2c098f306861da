/-! # Why a text is no pattern with an order of preference -/
namespace HookGate.Shell.OrderedPattern

inductive Fault
  | trailingBackslash
  | trailingControl
  | badControl
  | unknownEscape
  | unsupportedEscape
  | namedCharacter
  | countOrder
  | bigCount
  | openClass
  | escapeInClass
  | rangeOrder
  | badRange
  | nothingToRepeat
  | unknownFlag
  | kindOutside
  | collation
  | unknownKind
  | openGroup
  | closedGroup
  | openComment
  | missingGroup
  | lookBehind
  | bigCode
  | bigOctal
  | badHex
  | badOctal
  | missingBrace
  | sameName
  | openName
  | nameStart
  | emptyName
  | unknownNamed
  | badG
  | badK
  | unknownProperty
  | badProperty
  | unknownVerb
  | zeroRelative
  | missingDigit
  | manyChoices
deriving Repr, DecidableEq

def Fault.message : Fault → String
  | trailingBackslash => "\\ at end of pattern"
  | trailingControl => "\\c at end of pattern"
  | badControl => "\\c must be followed by a printable ASCII character"
  | unknownEscape => "unrecognized character follows \\"
  | unsupportedEscape => "PCRE2 does not support \\F, \\L, \\l, \\N\x7bname\x7d, \\U, or \\u"
  | namedCharacter => "\\N\x7bU+dddd\x7d is supported only in Unicode (UTF) mode"
  | countOrder => "numbers out of order in \x7b\x7d quantifier"
  | bigCount => "number too big in \x7b\x7d quantifier"
  | openClass => "missing terminating ] for character class"
  | escapeInClass => "escape sequence is invalid in character class"
  | rangeOrder => "range out of order in character class"
  | badRange => "invalid range in character class"
  | nothingToRepeat => "quantifier does not follow a repeatable item"
  | unknownFlag => "unrecognized character after (? or (?-"
  | kindOutside => "POSIX named classes are supported only within a class"
  | collation => "POSIX collating elements are not supported"
  | unknownKind => "unknown POSIX class name"
  | openGroup => "missing closing parenthesis"
  | closedGroup => "unmatched closing parenthesis"
  | openComment => "missing ) after (?# comment"
  | missingGroup => "reference to non-existent subpattern"
  | lookBehind => "lookbehind assertion is not fixed length"
  | bigCode => "character code point value in \\x\x7b\x7d or \\o\x7b\x7d is too large"
  | bigOctal => "octal value is greater than \\377 in 8-bit non-UTF-8 mode"
  | badHex => "non-hex character in \\x\x7b\x7d (closing brace missing?)"
  | badOctal => "non-octal character in \\o\x7b\x7d (closing brace missing?)"
  | missingBrace => "missing opening brace after \\o"
  | sameName => "two named subpatterns have the same name (PCRE2_DUPNAMES not set)"
  | openName => "syntax error in subpattern name (missing terminator?)"
  | nameStart => "subpattern name must start with a non-digit"
  | emptyName => "subpattern name expected"
  | unknownNamed => "unrecognized character after (?P"
  | badG =>
    "\\g is not followed by a braced, angle-bracketed, or quoted name/number or by a plain number"
  | badK => "\\k is not followed by a braced, angle-bracketed, or quoted name"
  | unknownProperty => "unknown property after \\P or \\p"
  | badProperty => "malformed \\P or \\p sequence"
  | unknownVerb => "(*VERB) not recognized or malformed"
  | zeroRelative => "a relative value of zero is not allowed"
  | missingDigit => "digit expected after (?+ or (?-"
  | manyChoices => "conditional subpattern contains more than two branches"

end HookGate.Shell.OrderedPattern
