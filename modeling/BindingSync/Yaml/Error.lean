import BindingSync.Crash
import BindingSync.Yaml.Text

/-!
# Faults in YAML texts
-/

namespace BindingSync.Yaml

/-- What is wrong with a text. -/
inductive Fault where
  | forbiddenCharacter | strayCharacter (c : Char)
  | keyWithoutValue | entryNotAllowed | keyNotAllowed | valueNotAllowed
  | openScalar | separatorInScalar | unknownEscape | badEscape | badBlockHeader
  | badAnchor | badTag | badTagEscape | badDirective
  | secondVersion | otherVersion | secondHandle | undefinedHandle
  | missingDocumentStart | missingContent | missingBlockEnd | missingFlowEnd
  | undefinedAlias (name : String) | duplicateAnchor (name : String)
  | secondDocument | unhashableKey | badMerge | undefinedTag
  | notAScalar | notASequence | notAMapping | notASinglePair | badBinary
deriving DecidableEq, Repr, Inhabited

namespace Fault

/-- The wording of a fault. -/
def message : Fault → String
  | forbiddenCharacter => "special characters are not allowed"
  | strayCharacter c => s!"found character '{c}' that cannot start any token"
  | keyWithoutValue => "could not find expected ':'"
  | entryNotAllowed => "sequence entries are not allowed here"
  | keyNotAllowed => "mapping keys are not allowed here"
  | valueNotAllowed => "mapping values are not allowed here"
  | openScalar => "found unexpected end of stream"
  | separatorInScalar => "found unexpected document separator"
  | unknownEscape => "found unknown escape character"
  | badEscape => "expected escape sequence of hexadecimal digits"
  | badBlockHeader => "expected chomping or indentation indicators"
  | badAnchor => "expected alphabetic or numeric character"
  | badTag => "expected a tag"
  | badTagEscape => "expected the bytes of a character in hexadecimal digits"
  | badDirective => "expected a directive"
  | secondVersion => "found duplicate version directive"
  | otherVersion => "found incompatible document, version 1 is required"
  | secondHandle => "found duplicate tag handle"
  | undefinedHandle => "found undefined tag handle"
  | missingDocumentStart => "expected the document start"
  | missingContent => "expected the node content"
  | missingBlockEnd => "expected the end of a block"
  | missingFlowEnd => "expected a comma or the end of a collection"
  | undefinedAlias name => s!"found undefined alias '{name}'"
  | duplicateAnchor name => s!"found duplicate anchor '{name}'"
  | secondDocument => "expected a single document in the stream"
  | unhashableKey => "found unhashable key"
  | badMerge => "expected a mapping or list of mappings for merging"
  | undefinedTag => "could not determine a constructor for the tag"
  | notAScalar => "expected a scalar node"
  | notASequence => "expected a sequence node"
  | notAMapping => "expected a mapping node"
  | notASinglePair => "expected a single mapping item"
  | badBinary => "failed to decode base 64 data"

end Fault

/-- Why a text gives no value: it has a fault at a place, or reading it ends the program. -/
inductive Error where
  | fault (fault : Fault) (place : Place)
  | crash (crash : Crash)
deriving DecidableEq, Repr, Inhabited

end BindingSync.Yaml
