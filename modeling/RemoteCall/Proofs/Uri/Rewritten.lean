import Mathlib.Data.String.Basic
import RemoteCall.Proofs.Uri.Target

/-!
# Targets of rewritten URIs

A URI that has been read, and any URI that is made of it by replacing its host, its port or its
path, has a target that reads back as the same scheme, authority and path.  The only thing that may
stand in the way is the length of the target.  It never does for a URI that has been read, since
what its target repeats of the text is at most all of it.
-/

namespace RemoteCall
namespace Uri

/-- A URI with a scheme and an authority that has been read, or made of such a one by replacing its
parts. -/
inductive Obtained : Uri → Prop where
  | read {text : String} {uri : Uri} (read : Uri.parse text = .ok uri)
      (schemed : uri.scheme ≠ none) (aimed : uri.authority ≠ none) : Obtained uri
  | hosted {uri next : Uri} (obtained : Obtained uri) {host : String}
      (replaced : uri.withHost host = .ok next) : Obtained next
  | ported {uri next : Uri} (obtained : Obtained uri) {port : UInt16}
      (replaced : uri.withPort port = .ok next) : Obtained next
  | pathed {uri next : Uri} (obtained : Obtained uri) {path : String}
      (replaced : uri.withPath path = .ok next) : Obtained next

variable {uri : Uri} {text : String}

theorem Obtained.absolute (obtained : Obtained uri) : uri.Absolute := by
  induction obtained with
  | read read schemed aimed => exact ⟨readable_of_parse read, schemed, aimed⟩
  | hosted _ replaced ih => exact ih.toReadable.withHost ih.aimed replaced
  | ported _ replaced ih => exact ih.withPort replaced
  | pathed _ replaced ih => exact ih.withPath replaced

section Sizes

open String (utf8Len)

variable {characters : List Char}

theorem length_le_utf8Len (characters : List Char) : characters.length ≤ utf8Len characters := by
  induction characters with
  | nil => exact Nat.le_refl 0
  | cons first later ih =>
      have positive := first.utf8Size_pos
      rw [List.length_cons, String.utf8Len_cons]
      omega

/-- A text that starts with a scheme of the web is at least as long as this scheme in lower case. -/
theorem size_of_afterLowercase? {expected rest : List Char}
    (found : afterLowercase? expected characters = some rest) :
    expected.length + utf8Len rest ≤ utf8Len characters := by
  obtain ⟨start, rfl, rfl⟩ := afterLowercase?_eq_some_iff.mp found
  have least := length_le_utf8Len start
  rw [List.length_map, String.utf8Len_append]
  omega

theorem size_of_splitScheme {scheme : String} {rest : List Char}
    (split : splitScheme characters = .ok (some (scheme, rest))) :
    scheme.utf8ByteSize + 3 + utf8Len rest ≤ utf8Len characters := by
  cases schemeForm_of_splitScheme split with
  | http found | https found => exact size_of_afterLowercase? found
  | @other scheme whole =>
      have separator : utf8Len (':' :: '/' :: '/' :: rest) = utf8Len rest + 3 := rfl
      rw [whole, String.utf8Len_append, separator, String.utf8ByteSize_ofList]
      omega

theorem size_of_splitAuthority {authority rest : List Char}
    (split : splitAuthority characters = .ok (authority, rest)) :
    utf8Len authority + utf8Len rest = utf8Len characters := by
  obtain ⟨rfl, rfl, _⟩ := splitAuthority_parts split
  rw [← String.utf8Len_append, List.takeWhile_append_dropWhile]

theorem size_of_locator {found : Locator} (located : locator characters = .ok found) :
    found.path.utf8ByteSize ≤ utf8Len characters := by
  rw [(path_of_locator located).1, String.utf8ByteSize_ofList]
  exact String.utf8Len_le_of_prefix
    ((List.takeWhile_prefix _).trans (List.takeWhile_prefix _))

/-- The target repeats the scheme, the authority and the path, or leaves the path out. -/
theorem targetText_size_le (scheme authority path : String) (query : Option String) :
    (targetText ⟨some scheme, some authority, path, query⟩).utf8ByteSize ≤
      scheme.utf8ByteSize + 3 + authority.utf8ByteSize + path.utf8ByteSize := by
  have base : (scheme ++ "://" ++ authority).utf8ByteSize =
      scheme.utf8ByteSize + 3 + authority.utf8ByteSize := by
    rw [String.utf8ByteSize_append, String.utf8ByteSize_append]
    rfl
  rw [targetText, path_of_schemed (Option.some_ne_none scheme)]
  dsimp only [schemeOrHttp, Option.getD_some]
  by_cases empty : path.isEmpty = true
  · rw [if_pos empty, if_pos (by decide), base]
    omega
  · rw [if_neg empty]
    split
    · omega
    · rw [String.utf8ByteSize_append, base]

/-- The target of a URI is not longer than the text that the URI has been read from. -/
theorem targetText_size_of_parse (read : Uri.parse text = .ok uri) (schemed : uri.scheme ≠ none) :
    uri.targetText.utf8ByteSize ≤ text.utf8ByteSize := by
  rw [← String.utf8Len_toList text]
  cases form_of_parse read with
  | asterisk | rooted | letter => exact absurd rfl schemed
  | absolute _ form =>
      cases form with
      | unschemed => exact absurd rfl schemed
      | @schemed scheme rest authority later found named _ split located =>
          calc (targetText ⟨some scheme, some (String.ofList authority), found.path,
                  found.query⟩).utf8ByteSize
            _ ≤ scheme.utf8ByteSize + 3 + utf8Len authority + found.path.utf8ByteSize := by
                rw [← String.utf8ByteSize_ofList authority]
                exact targetText_size_le _ _ _ _
            _ ≤ scheme.utf8ByteSize + 3 + utf8Len rest := by
                have shorter := size_of_locator located
                have size := size_of_splitAuthority split
                omega
            _ ≤ utf8Len text.toList := size_of_splitScheme named

end Sizes

theorem targetText_congr {first second : Uri} (scheme : first.scheme = second.scheme)
    (authority : first.authority = second.authority) (path : first.path = second.path) :
    first.targetText = second.targetText := by
  unfold targetText schemeOrHttp
  rw [scheme, authority, path]

/-- The target of a URI reads back as its scheme, its authority and its path, without a query, and
what has been read has the same target.  This is so for every URI that has been read, and for every
one that is made of it by replacing its parts, unless its target is too long to be read. -/
theorem target_reads_back (obtained : Obtained uri)
    (within : (∃ text, Uri.parse text = .ok uri) ∨ uri.targetText.utf8ByteSize ≤ lengthLimit) :
    ∃ landed, Uri.parse uri.targetText = .ok landed ∧ landed.scheme = uri.scheme ∧
      landed.authority = uri.authority ∧ landed.host = uri.host ∧ landed.port = uri.port ∧
      landed.path = uri.path ∧ landed.query = none ∧ landed.targetText = uri.targetText := by
  have absolute := obtained.absolute
  have short : uri.targetText.utf8ByteSize ≤ lengthLimit := by
    rcases within with ⟨text, read⟩ | short
    · exact (targetText_size_of_parse read absolute.schemed).trans (within_of_parse read)
    · exact short
  obtain ⟨scheme, authority, path, isScheme, isAuthority, isPath, _, samePath, target⟩ :=
    absolute.exists_targetText
  have read : Uri.parse uri.targetText = .ok ⟨some scheme, some authority, path, none⟩ := by
    rw [target] at short ⊢
    exact parse_parts (absolute.scheme scheme isScheme) (absolute.authority authority isAuthority)
      isPath short
  refine ⟨_, read, isScheme.symm, isAuthority.symm, ?_, ?_, samePath, rfl, ?_⟩
  · rw [host, host, isAuthority]
  · rw [port, port, isAuthority]
  · exact targetText_congr isScheme.symm isAuthority.symm samePath

/-- A name with a user is replaced by an address of the longer family, and a query is dropped. -/
theorem target_reads_back_bracketed :
    let entry : Uri := ⟨some "https", some "user@relay:8443", "/rpc", some "shard=3"⟩
    let next : Uri := ⟨some "https", some "[::1]:8443", "/rpc", some "shard=3"⟩
    Uri.parse "HTTPS://user@relay:8443/rpc?shard=3" = .ok entry ∧
      entry.withHost "::1" = .ok next ∧ next.targetText = "https://[::1]:8443/rpc" ∧
        ∃ landed, Uri.parse next.targetText = .ok landed ∧ landed.scheme = next.scheme ∧
          landed.authority = next.authority ∧ landed.host = next.host ∧ landed.port = next.port ∧
          landed.path = next.path ∧ landed.query = none ∧ landed.targetText = next.targetText := by
  intro entry next
  have read : Uri.parse "HTTPS://user@relay:8443/rpc?shard=3" = .ok entry := by rfl
  have replaced : entry.withHost "::1" = .ok next := by decide +kernel
  have obtained : Obtained next := .hosted (.read read nofun nofun) replaced
  exact ⟨read, replaced, by rfl, target_reads_back obtained (Or.inr (by decide +kernel))⟩

end Uri
end RemoteCall
