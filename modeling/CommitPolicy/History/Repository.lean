import CommitPolicy.Failure
import CommitPolicy.Text.Utf8

/-!
# Repositories

What a repository answers when it is asked for the commits of a revision range, and the records that
are made of the commits.
-/

namespace CommitPolicy

open Text

/-- The text of a commit as it is stored: bytes if it is not known to be well formed. -/
inductive StoredText where
  | text (s : String)
  | bytes (b : List UInt8)
  deriving DecidableEq, Repr

namespace StoredText

/-- The text, with replacement characters for malformed bytes. -/
def decoded : StoredText → String
  | text s => s
  | bytes b => decodeLossy b

/-- The first line, as it is stored. -/
def firstLine : StoredText → StoredText
  | text s => text (String.ofList (s.toList.takeWhile (· != '\n')))
  | bytes b => bytes (b.takeWhile (· != 10))

end StoredText

/-- A commit in a repository. -/
structure StoredCommit where
  sha : String
  message : StoredText
  isMerge : Bool
  deriving DecidableEq, Repr

/-- A commit whose message is to be validated. -/
structure CommitRecord where
  sha : String
  message : String
  summary : StoredText
  deriving DecidableEq, Repr

namespace CommitRecord

/-- The record of a commit. -/
def ofStored (c : StoredCommit) : CommitRecord := ⟨c.sha, c.message.decoded, c.message.firstLine⟩

/-- The start of the name of a commit. -/
def shortSha (r : CommitRecord) : String := String.ofList (r.sha.toList.take 8)

end CommitRecord

/-- What a repository answers. -/
inductive Repository where
  | missing
  /-- The commits, newest first. -/
  | commits (cs : List StoredCommit)
  /-- The command that lists the commits failed. -/
  | commandFailed (status : Int) (complaint : String)
  /-- There is nothing that the range could mean. -/
  | unresolved (text : String)
  /-- The user stopped the command. -/
  | interrupted

/-- Which commits of a range are asked for. -/
structure RangeQuery where
  range : String
  /-- At most so many commits. -/
  maxCount : Option Nat
  noMerges : Bool

namespace Repository

/-- The repository in the directory called `path`, if there is one. -/
def open? (r : Repository) (path : String) : Except Failure Repository :=
  match r with
  | missing => .error (.argument ("Not a git repository: " ++ path))
  | r => .ok r

/-- Why a command failed that lists the commits of a range. -/
def commandFailure (range : String) (status : Int) (complaint : String) : String :=
  if complaint.isEmpty then
    "Cmd('git') failed due to: exit code(" ++ toString status ++ ")\n  cmdline: git rev-list "
      ++ range ++ " --"
  else strip ("\n  stderr: '" ++ complaint ++ "'")

/-- The failure of a range that cannot be resolved. -/
def badRange (range text : String) : Failure :=
  .argument ("Invalid revision range '" ++ range ++ "': " ++ text)

/-- The commits that are asked for, out of all commits of the range. -/
def select (q : RangeQuery) (cs : List StoredCommit) : List StoredCommit :=
  let kept := if q.noMerges then cs.filter fun c => !c.isMerge else cs
  q.maxCount.elim kept kept.take

/-- The records of the commits that are asked for. -/
def collect (q : RangeQuery) : Repository → Except Failure (List CommitRecord)
  | missing => .error (badRange q.range "")
  | commits cs => .ok ((select q cs).map CommitRecord.ofStored)
  | commandFailed status complaint =>
    .error (badRange q.range (commandFailure q.range status complaint))
  | unresolved text => .error (badRange q.range text)
  | interrupted => .error .interrupted

end Repository

end CommitPolicy
