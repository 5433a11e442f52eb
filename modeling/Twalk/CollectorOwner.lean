/-
This file models `collector/src/owner.rs`, with the subject of an address from
`side.rs` and the cache of `consent.rs`: the owner is every address they hold,
not only the one they are named by. Every address is trimmed and lower-cased once,
when the owner is declared, and the one question asked of an owner is whether an
address, or a `mailto:` subject, is theirs.
-/

import Twalk.ConsentCache
import Twalk.Library.Text

namespace Twalk.Collector

/-! ### Addresses -/

/-- One address, as every comparison wants it. -/
def normalise (email : String) : String := Text.toAsciiLowercase (Text.trim email)

/-- The `mailto:` subject of an address, which may already be spelled as one. -/
def ownerMailto (owner : String) : String :=
  let address := Text.trim owner
  "mailto:" ++ normalise ((Text.stripAsciiCase "mailto:" address).getD address)

structure Owner where
  primary : String
  aliases : List String
  named : primary ∉ aliases
  written : "" ∉ aliases
  distinct : aliases.Nodup

namespace Owner

/-- An alias equal to the primary address, blank or repeated says nothing new. -/
def keep (primary : String) (held : List String) (entry : String) : List String :=
  if entry = "" ∨ entry = primary ∨ entry ∈ held then held else held ++ [entry]

theorem keep_wellFormed {primary : String} {held : List String}
    (kept : primary ∉ held ∧ "" ∉ held ∧ held.Nodup) (entry : String) :
    primary ∉ keep primary held entry ∧ "" ∉ keep primary held entry ∧
      (keep primary held entry).Nodup := by
  unfold keep
  split
  · exact kept
  · rename_i new
    obtain ⟨notBlank, notPrimary, notHeld⟩ := not_or.mp new |>.imp_right not_or.mp
    refine ⟨?_, ?_, ?_⟩
    · simp [kept.1, Ne.symm notPrimary]
    · simp [kept.2.1, Ne.symm notBlank]
    · exact List.nodup_append.mpr ⟨kept.2.2, List.nodup_singleton _, fun first firstIn second
        secondIn same => notHeld (List.mem_singleton.mp secondIn ▸ same ▸ firstIn)⟩

theorem foldl_keep_wellFormed {primary : String} (entries : List String) {held : List String}
    (kept : primary ∉ held ∧ "" ∉ held ∧ held.Nodup) :
    primary ∉ entries.foldl (keep primary) held ∧ "" ∉ entries.foldl (keep primary) held ∧
      (entries.foldl (keep primary) held).Nodup := by
  induction entries generalizing held with
  | nil => exact kept
  | cons entry rest inductionHypothesis => exact inductionHypothesis (keep_wellFormed kept entry)

/-- The owner named by one address, who also holds others. -/
def new (primary : String) (aliases : List String) : Owner :=
  have nothing : normalise primary ∉ ([] : List String) ∧ "" ∉ ([] : List String) ∧
      ([] : List String).Nodup := by simp
  have kept := foldl_keep_wellFormed (aliases.map normalise) nothing
  { primary := normalise primary
    aliases := (aliases.map normalise).foldl (keep (normalise primary)) []
    named := kept.1
    written := kept.2.1
    distinct := kept.2.2 }

def holds (owner : Owner) (email : String) : Bool :=
  let email := normalise email
  email != "" && (email == owner.primary || owner.aliases.contains email)

/-- Every address they hold, the primary one first. -/
def addresses (owner : Owner) : List String := owner.primary :: owner.aliases

/-- The `mailto:` subject each address makes. -/
def mailtos (owner : Owner) : List String := owner.addresses.map ownerMailto

def holdsMailto (owner : Owner) (subject : String) : Bool :=
  owner.mailtos.any fun mine => mine == ownerMailto subject

end Owner

/-- The cache the collector reads, knowing the owner by every address they hold. -/
def cacheFor (owner : Owner) : Cache.ConsentCache :=
  Cache.ConsentCache.forPeopleOnly
    (some (Cache.Owner.new (ownerMailto owner.primary) (owner.aliases.map ownerMailto))) []

end Twalk.Collector
