import HookGate.Pattern.Search
import HookGate.Text.Basic

/-! # Redaction

Credentials in a text are replaced before it is recorded. The patterns are applied one after the other, each to what
the ones before it left. -/
namespace HookGate.Redaction

open Pattern

def oneOf (s : String) : Pattern := .set (.ofChars s.toList)

def alnum : List (Nat × Nat) := [(0x30, 0x39), (0x41, 0x5A), (0x61, 0x7A)]

/-- Letters, digits, the underscore and the hyphen. -/
def tokenChar : CharSet := .ranges ((0x2D, 0x2D) :: (0x5F, 0x5F) :: alnum)

/-- Letters, digits and the underscore. -/
def wordTokenChar : CharSet := .ranges ((0x5F, 0x5F) :: alnum)

/-- Digits and capital letters. -/
def keyIdChar : CharSet := .ranges [(0x30, 0x39), (0x41, 0x5A)]

def spaces : Pattern := star (.set .space)

def quote : Pattern := oneOf "'\""

/-- A name with an equals sign or a colon behind it. -/
def assigned (name : List Pattern) (value : List Pattern) : Pattern :=
  concat (name ++ [spaces, oneOf "=:", spaces, opt quote] ++ value)

/-- The value of a key or token: `api_key = …` and the like, sixteen characters or more. -/
def keyValue : Pattern :=
  assigned
    [alternatives (["api", "secret", "access", "auth"].map caseless), opt (oneOf "_-"),
      alternatives (["key", "token"].map caseless)]
    [atLeast 16 (.set (.folded tokenChar))]

/-- The value of a password. -/
def passwordValue : Pattern :=
  assigned [alternatives (["password", "passwd", "pwd"].map caseless)]
    [plus (.set (.compl (.folded (.union .space (.ofChars ['\'', '"'])))))]

/-- An access key that starts with `AKIA`. -/
def accessKey : Pattern := .seq (literal "AKIA") (exactly 16 (.set keyIdChar))

/-- A token of a code host: `ghp_…` and its relatives. -/
def hostToken : Pattern := concat [literal "gh", oneOf "pousr", literal "_", atLeast 36 (.set wordTokenChar)]

/-- A fine-grained token of a code host. -/
def fineToken : Pattern := .seq (literal "github_pat_") (atLeast 22 (.set wordTokenChar))

/-- A secret key that starts with `sk-`. -/
def secretKey : Pattern := .seq (literal "sk-") (atLeast 20 (.set tokenChar))

/-- The token of the scanner, passed as a variable. -/
def scannerToken : Pattern :=
  concat [caseless "SEMGREP_APP_TOKEN", spaces, literal "=", spaces, plus (.set (.compl .space))]

def patterns : List Pattern :=
  [keyValue, passwordValue, accessKey, hostToken, fineToken, secretKey, scannerToken]

/-- What stands in place of a credential. -/
def marker : List Char := "[REDACTED]".toList

def redactChars (text : List Char) : List Char := patterns.foldl (fun t p => p.substitute marker t) text

def redact (text : String) : String := String.ofList (redactChars text.toList)

end HookGate.Redaction
