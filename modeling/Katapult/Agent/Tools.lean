/-
  Katapult.Agent.Tools

  The tools of a node and their versions, found in what the tools print.

  The versions that the agent can extract are two or three numerals with dots
  between them (`extractable_iff`).
-/

import Katapult.Domain.Agent
import Katapult.Domain.Numeral
import Katapult.Regexp.Leftmost

namespace Katapult

/-- What a command leaves when it has run: the text it wrote, and how it failed. -/
structure CommandResult where
  output : String
  err : Option Err := none

/-- `\d+`. -/
def digits : Regexp Char := .many Char.isDigit

/-- `\.`. -/
def dot : Regexp Char := .one (· == '.')

/-- `(\d+\.\d+(?:\.\d+)?)`, of which the one group is the whole. -/
def tarVersionRe : Regexp Char := .seq digits (.seq dot (.seq digits (.opt (.seq dot digits))))

/-- The version in what a tool has printed. -/
def parseVersion (output : String) : Except Err String :=
  match tarVersionRe.find? output.toList with
  | none => .error "could not parse version from output"
  | some version => .ok (String.ofList version)

def getTarVersion (tar : CommandResult) : Except Err String :=
  match tar.err with
  -- what was printed does not count, other than for the two tools below
  | some err => .error ("not found or not executable: " ++ err)
  | none => parseVersion tar.output

/-- Some tools fail when they are asked for their version, and print it. -/
def getToolVersion (tool : CommandResult) : Except Err String :=
  match tool.err with
  | some err =>
    if tool.output = "" then .error ("not found or not executable: " ++ err)
    else parseVersion tool.output
  | none => parseVersion tool.output

/-- What is wrong with a tool, under its name. -/
def toolError (name : String) : Except Err String → List Err
  | .error err => [name ++ ": " ++ err]
  | .ok _ => []

/-- The versions that were found, and what is wrong with the other tools. -/
def verifyTools (tar zstd stunnel : CommandResult) : ToolVersions × Option Err :=
  let tarVer := getTarVersion tar
  let zstdVer := getToolVersion zstd
  let stunnelVer := getToolVersion stunnel
  let tools : ToolVersions :=
    { tar := tarVer.toOption.getD "", zstd := zstdVer.toOption.getD ""
      stunnel := stunnelVer.toOption.getD "" }
  match toolError "tar" tarVer ++ toolError "zstd" zstdVer ++ toolError "stunnel" stunnelVer with
  | [] => (tools, none)
  | errs => (tools, some ("missing required tools: " ++ String.intercalate "; " errs))

/-! ## The versions that can be extracted -/

theorem matches_digits_iff {cs : List Char} : digits.Matches cs ↔ Numeral cs :=
  Regexp.matches_many_iff

theorem matches_dot_iff {cs : List Char} : dot.Matches cs ↔ cs = ['.'] := by
  simp [dot]

theorem matches_tarVersionRe_iff {cs : List Char} :
    tarVersionRe.Matches cs ↔ ∃ major minor, Numeral major ∧ Numeral minor ∧
      (cs = major ++ '.' :: minor ∨
        ∃ patch, Numeral patch ∧ cs = major ++ '.' :: (minor ++ '.' :: patch)) := by
  simp only [tarVersionRe, Regexp.matches_seq_iff, Regexp.matches_opt_iff, matches_digits_iff,
    matches_dot_iff]
  constructor
  · rintro ⟨major, _, hmajor, ⟨_, _, rfl, ⟨minor, _, hminor, hend, rfl⟩, rfl⟩, rfl⟩
    refine ⟨major, minor, hmajor, hminor, ?_⟩
    rcases hend with rfl | ⟨_, patch, rfl, hpatch, rfl⟩
    · exact .inl (by simp)
    · exact .inr ⟨patch, hpatch, by simp⟩
  · rintro ⟨major, minor, hmajor, hminor, rfl | ⟨patch, hpatch, rfl⟩⟩
    · exact ⟨major, _, hmajor, ⟨_, _, rfl, ⟨minor, [], hminor, .inl rfl, rfl⟩, rfl⟩, by simp⟩
    · exact ⟨major, _, hmajor, ⟨_, _, rfl, ⟨minor, _, hminor, .inr ⟨_, patch, rfl, hpatch, rfl⟩, rfl⟩,
        rfl⟩, by simp⟩

/-- A reader of digits stops at the dot, or at the end. -/
theorem first_digits {cs rest : List Char} (hcs : Numeral cs) (hrest : ∀ c, rest.head? = some c → c = '.') :
    digits.first (cs ++ rest) = some (cs, rest) :=
  Regexp.first_many hcs.1 hcs.2 fun c hc => by
    rw [hrest c hc]
    rfl

theorem first_digits_end {cs : List Char} (hcs : Numeral cs) : digits.first cs = some (cs, []) := by
  have hfirst := @first_digits cs [] hcs (by simp)
  rwa [List.append_nil] at hfirst

theorem first_dot (rest : List Char) : dot.first ('.' :: rest) = some (['.'], rest) :=
  Regexp.first_one rfl

/-- A version is read whole. -/
theorem first_tarVersionRe {cs : List Char} (h : tarVersionRe.Matches cs) :
    tarVersionRe.first cs = some (cs, []) := by
  obtain ⟨major, minor, hmajor, hminor, rfl | ⟨patch, hpatch, rfl⟩⟩ := matches_tarVersionRe_iff.mp h
  · -- at the end there is no dot, and the optional part is passed over
    have hnone : (Regexp.seq dot digits).first [] = none := rfl
    have htail := Regexp.first_seq (first_digits_end hminor) (Regexp.first_opt_skip hnone)
    rw [List.append_nil] at htail
    exact Regexp.first_seq (first_digits hmajor (by simp)) (Regexp.first_seq (first_dot minor) htail)
  · have hpart := Regexp.first_opt_take (Regexp.first_seq (first_dot patch) (first_digits_end hpatch))
    exact Regexp.first_seq (first_digits hmajor (by simp)) (Regexp.first_seq (first_dot _)
      (Regexp.first_seq (first_digits hminor (by simp)) hpart))

theorem parseVersion_eq_ok {output version : String} (h : parseVersion output = .ok version) :
    tarVersionRe.Matches version.toList := by
  unfold parseVersion at h
  split at h
  · cases h
  · rename_i hfind
    cases h
    rw [String.toList_ofList]
    exact Regexp.matches_of_find? hfind

theorem parseVersion_of_matches {version : String} (h : tarVersionRe.Matches version.toList) :
    parseVersion version = .ok version := by
  rw [parseVersion, Regexp.find?_of_first (first_tarVersionRe h)]
  exact congrArg Except.ok String.ofList_toList

/-- What the agent can take for the version of its tar is exactly the language of
    the expression. -/
theorem extractable_iff {version : String} :
    (∃ tar, getTarVersion tar = .ok version) ↔ tarVersionRe.Matches version.toList := by
  constructor
  · rintro ⟨tar, h⟩
    unfold getTarVersion at h
    split at h
    · cases h
    · exact parseVersion_eq_ok h
  · intro h
    exact ⟨⟨version, none⟩, parseVersion_of_matches h⟩

theorem getToolVersion_eq_ok {tool : CommandResult} {version : String}
    (h : getToolVersion tool = .ok version) : tarVersionRe.Matches version.toList := by
  unfold getToolVersion at h
  split at h
  · split at h
    · cases h
    · exact parseVersion_eq_ok h
  · exact parseVersion_eq_ok h

theorem ne_empty_of_matches {version : String} (h : tarVersionRe.Matches version.toList) :
    version ≠ "" := by
  rintro rfl
  obtain ⟨major, minor, hmajor, -, htext | ⟨patch, -, htext⟩⟩ := matches_tarVersionRe_iff.mp h
  · exact absurd htext (by simp)
  · exact absurd htext (by simp)

theorem toolError_eq_nil {name : String} {version : Except Err String}
    (h : toolError name version = []) : ∃ text, version = .ok text := by
  cases version with
  | error err => cases h
  | ok text => exact ⟨text, rfl⟩

/-- Without an error, every tool has been found. -/
theorem verifyTools_eq_none {tar zstd stunnel : CommandResult} {tools : ToolVersions}
    (h : verifyTools tar zstd stunnel = (tools, none)) :
    getTarVersion tar = .ok tools.tar ∧ getToolVersion zstd = .ok tools.zstd ∧
      getToolVersion stunnel = .ok tools.stunnel := by
  unfold verifyTools at h
  dsimp only at h
  split at h
  · rename_i hnone
    rw [List.append_eq_nil_iff, List.append_eq_nil_iff] at hnone
    obtain ⟨tarVer, htar⟩ := toolError_eq_nil hnone.1.1
    obtain ⟨zstdVer, hzstd⟩ := toolError_eq_nil hnone.1.2
    obtain ⟨stunnelVer, hstunnel⟩ := toolError_eq_nil hnone.2
    rw [htar, hzstd, hstunnel] at h
    cases h
    exact ⟨htar, hzstd, hstunnel⟩
  · cases h

end Katapult
