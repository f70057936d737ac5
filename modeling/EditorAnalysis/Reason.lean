import EditorAnalysis.Lane

/-!
# Reasons

The reason of a request is the editor event behind it. It fixes the lane of the request, whether its
result is remembered, whether the result is delivered although newer work waits, and, by default,
whether a recent result of a full check is answer enough.
-/

namespace EditorAnalysis

/-- The editor event that asks for an analysis. -/
inductive Reason where
  /-- A member is selected after a dot. -/
  | memberSelect
  /-- The caret moves next to a brace. -/
  | matchBraces
  /-- A closing parenthesis: the pair is shown and the method tip refreshed. -/
  | matchBracesAndMethodTip
  /-- A check of the whole document. -/
  | fullTypeCheck
  /-- Completion is asked for. -/
  | completeWord
  /-- The member list is asked for. -/
  | displayMemberList
  /-- The mouse rests on a word. -/
  | quickInfo
  /-- An argument list is opened, continued or closed. -/
  | methodTip
  /-- The definition is asked for. -/
  | goto
  /-- A document is parsed without being checked. -/
  | parseFile
  deriving DecidableEq, Repr, Inhabited

namespace Reason

/-- Every reason, in the order of declaration. -/
def all : List Reason :=
  [.memberSelect, .matchBraces, .matchBracesAndMethodTip, .fullTypeCheck, .completeWord,
    .displayMemberList, .quickInfo, .methodTip, .goto, .parseFile]

/-- The name of a reason in messages and documents. -/
def name : Reason → String
  | .memberSelect => "member-select"
  | .matchBraces => "match-braces"
  | .matchBracesAndMethodTip => "match-braces-and-method-tip"
  | .fullTypeCheck => "full-type-check"
  | .completeWord => "complete-word"
  | .displayMemberList => "display-member-list"
  | .quickInfo => "quick-info"
  | .methodTip => "method-tip"
  | .goto => "goto"
  | .parseFile => "parse-file"

/-- The label of a reason in descriptions of requests. -/
def label : Reason → String
  | .memberSelect => "MemberSelect"
  | .matchBraces => "MatchBraces"
  | .matchBracesAndMethodTip => "MatchBracesAndMethodTip"
  | .fullTypeCheck => "FullTypeCheck"
  | .completeWord => "CompleteWord"
  | .displayMemberList => "DisplayMemberList"
  | .quickInfo => "QuickInfo"
  | .methodTip => "MethodTip"
  | .goto => "Goto"
  | .parseFile => "ParseFile"

/-- The reason of a given name. -/
def ofName? (name : String) : Option Reason :=
  all.find? fun reason => reason.name == name

/-- A list of names for a message: each between backticks, separated by commas. -/
def quotedNames (names : List String) : String :=
  ", ".intercalate (names.map fun name => "`" ++ name ++ "`")

/-- The message about a name that no reason has. -/
def unknownMessage (name : String) : String :=
  "unknown variant `" ++ name ++ "`, expected one of " ++ quotedNames (all.map Reason.name)

/-- The lane in which requests of this reason are queued. -/
def lane : Reason → Lane
  | .fullTypeCheck | .parseFile => .background
  | _ => .interactive

/-- Whether a result of this reason is remembered as the recent result. -/
def updatesRecentResult : Reason → Bool
  | .fullTypeCheck | .parseFile => true
  | _ => false

/-- Whether a result of this reason is delivered although newer work of its lane waits. -/
def alwaysDelivered : Reason → Bool
  | .fullTypeCheck => true
  | _ => false

/-- Whether, by default, the recent result is answer enough for this reason. -/
def reusesRecentResult : Reason → Bool
  | .matchBraces | .matchBracesAndMethodTip | .quickInfo | .methodTip => true
  | _ => false

end Reason

end EditorAnalysis
