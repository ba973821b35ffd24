import CommitPolicy.Text.Blank
import CommitPolicy.Text.Case
import CommitPolicy.Text.Word

/-!
# Character tests

What a pattern asks of one character: a class of code points, ranges and categories, possibly
negated, under a rule for case.  A class holds code points rather than characters, since a pattern
may name one that is no character.
-/

namespace CommitPolicy.Pattern

open Text

/-- The rule by which letters of different case are told apart. -/
inductive CaseRule where
  /-- Every letter is only itself. -/
  | exact
  /-- Case does not matter for the ASCII letters. -/
  | ascii
  /-- Case does not matter. -/
  | folded
  deriving DecidableEq, Repr

/-- A category of characters. -/
inductive Category where
  | digit
  | space
  | word
  deriving DecidableEq, Repr

/-- Whether a character is of a category, among all characters or among the ASCII ones. -/
def Category.holds (ascii : Bool) (c : Char) : Category → Bool
  | digit => if ascii then isAsciiDigit c else isDigit c
  | space => if ascii then c == ' ' || ('\t' ≤ c && c ≤ '\r') else isBlank c
  | word => if ascii then isAsciiWordChar c else isWordChar c

/-- A member of a class. -/
inductive ClassItem where
  | one (n : Nat)
  | range (lo hi : Nat)
  | category (negated : Bool) (c : Category)
  deriving DecidableEq, Repr

/-- A test of one character. -/
structure CharTest where
  negated : Bool
  items : List ClassItem
  caseRule : CaseRule
  ascii : Bool
  deriving DecidableEq, Repr

/-- The lower case of a code point that need not be a character. -/
def lowerCode (n : Nat) : Nat := CaseRun.map lowerRuns n

/-- The lower case of an ASCII code point. -/
def lowerAscii (n : Nat) : Nat := if 65 ≤ n && n ≤ 90 then n + 32 else n

namespace CaseRule

/-- The character that stands for `c` under the rule. -/
def fold (rule : CaseRule) (c : Char) : Char :=
  match rule with
  | exact => c
  | ascii => c.toLower
  | folded => lowerChar c

/-- Whether the code point `n` of a pattern stands for the folded character `c`. -/
def same (rule : CaseRule) (n : Nat) (c : Char) : Bool :=
  match rule with
  | exact => n = c.toNat
  | ascii => lowerAscii n = c.toNat
  | folded => (caseClass (lowerCode n)).contains c.toNat

/-- The code points that the folded character `c` may have come from, under the rule. -/
def sources (rule : CaseRule) (c : Char) : List Nat :=
  let n := c.toNat
  match rule with
  | exact => [n]
  | ascii => if 97 ≤ n && n ≤ 122 then [n, n - 32] else [n]
  | folded => (caseClass n).flatMap fun m => m :: CaseRun.preimages lowerRuns m

end CaseRule

/-- Whether the folded character `c` is a member. -/
def ClassItem.holds (rule : CaseRule) (ascii : Bool) (c : Char) : ClassItem → Bool
  | one n => rule.same n c
  | range lo hi => (rule.sources c).any fun n => lo ≤ n && n ≤ hi
  | category negated k => k.holds ascii c != negated

/-- Whether a character passes the test. -/
def CharTest.holds (t : CharTest) (c : Char) : Bool :=
  (t.items.any fun item => item.holds t.caseRule t.ascii (t.caseRule.fold c)) != t.negated

end CommitPolicy.Pattern
