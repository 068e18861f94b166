/-!
# Faults that nothing handles

Most failures are reported with a message.  A few are not expected by any part of the program
and end it; they have a kind and no wording.
-/

namespace BindingSync

/-- A fault that ends the program. -/
inductive Crash where
  /-- A value was asked for a member that values of its kind do not have. -/
  | missingMember
  /-- Values of different kinds were put in order, or a value was used as what it is not. -/
  | wrongKind
  /-- A value of the right kind that is not acceptable. -/
  | unacceptable
  /-- A word was looked up in a table that does not hold it. -/
  | missingEntry
  /-- A character was asked for behind the end of a text. -/
  | outOfRange
  /-- A number is too large for its form. -/
  | overflow
  /-- Something is nested too deep, or inside itself. -/
  | tooDeep
  /-- A file is no text. -/
  | undecodable
  /-- A file stands where a directory is to be made. -/
  | fileExists
  /-- A directory stands where a file is to be written. -/
  | isADirectory
  /-- A path goes on behind a file. -/
  | notADirectory
  /-- A file operation failed for another reason. -/
  | fileFailure
deriving DecidableEq, Repr, Inhabited

end BindingSync
