import Mathlib.Data.Set.Basic
import PoeDhcp.Foundation.Machine

namespace Foundation

universe u v

/-! An abstract lease service: addresses of a pool are handed to clients, no
address to two clients, and a client that can be recognised keeps its one
address. -/

/-- The leases granted so far. `named` says which clients can be recognised
again. -/
structure LeaseBook (κ : Type u) (α : Type v) (named : κ → Prop)
    (pool : α → Prop) where
  leases : Set (κ × α)
  exclusive : ∀ {first second address}, (first, address) ∈ leases →
    (second, address) ∈ leases → first = second
  single : ∀ {client first second}, named client → (client, first) ∈ leases →
    (client, second) ∈ leases → first = second
  pooled : ∀ {client address}, (client, address) ∈ leases → pool address

namespace LeaseBook

variable {κ : Type u} {α : Type v} {named : κ → Prop} {pool : α → Prop}

def empty : LeaseBook κ α named pool where
  leases := ∅
  exclusive := fun member _ => member.elim
  single := fun _ member _ => member.elim
  pooled := fun member => member.elim

structure Grantable (book : LeaseBook κ α named pool) (client : κ)
    (address : α) : Prop where
  pooled : pool address
  address_free : ∀ other, (other, address) ∉ book.leases
  client_new : named client → ∀ other, (client, other) ∉ book.leases

def grant (book : LeaseBook κ α named pool) (client : κ) (address : α)
    (grantable : book.Grantable client address) : LeaseBook κ α named pool where
  leases := insert (client, address) book.leases
  exclusive := by
    intro first second other hfirst hsecond
    rcases hfirst with hfirst | hfirst <;> rcases hsecond with hsecond | hsecond
    · exact (congrArg Prod.fst hfirst).trans (congrArg Prod.fst hsecond).symm
    · have same : other = address := congrArg Prod.snd hfirst
      subst same
      exact False.elim (grantable.address_free second hsecond)
    · have same : other = address := congrArg Prod.snd hsecond
      subst same
      exact False.elim (grantable.address_free first hfirst)
    · exact book.exclusive hfirst hsecond
  single := by
    intro other first second hnamed hfirst hsecond
    rcases hfirst with hfirst | hfirst <;> rcases hsecond with hsecond | hsecond
    · exact (congrArg Prod.snd hfirst).trans (congrArg Prod.snd hsecond).symm
    · have same : other = client := congrArg Prod.fst hfirst
      subst same
      exact False.elim (grantable.client_new hnamed second hsecond)
    · have same : other = client := congrArg Prod.fst hsecond
      subst same
      exact False.elim (grantable.client_new hnamed first hfirst)
    · exact book.single hnamed hfirst hsecond
  pooled := by
    intro other otherAddress member
    rcases member with member | member
    · have same : otherAddress = address := congrArg Prod.snd member
      exact same ▸ grantable.pooled
    · exact book.pooled member

end LeaseBook

/-- What the service tells a client: an address is offered, or a lease that it
already has is confirmed. -/
inductive AnnouncementKind
  | offer
  | confirm
deriving DecidableEq

structure Announcement (κ : Type u) (α : Type v) where
  kind : AnnouncementKind
  client : κ
  address : α

/-- `LeaseRun history book`: the service can have announced `history` and hold
`book` after it. -/
inductive LeaseRun {κ : Type u} {α : Type v} {named : κ → Prop}
    {pool : α → Prop} :
    List (Announcement κ α) → LeaseBook κ α named pool → Prop
  | start : LeaseRun [] LeaseBook.empty
  | grant {history book client address}
      (run : LeaseRun history book)
      (grantable : book.Grantable client address) :
      LeaseRun (history ++ [⟨.offer, client, address⟩])
        (book.grant client address grantable)
  | repeated {history book client address} (kind : AnnouncementKind)
      (run : LeaseRun history book)
      (held : (client, address) ∈ book.leases) :
      LeaseRun (history ++ [⟨kind, client, address⟩]) book

namespace LeaseRun

variable {κ : Type u} {α : Type v} {named : κ → Prop} {pool : α → Prop}
variable {history : List (Announcement κ α)} {book : LeaseBook κ α named pool}
variable {first second : Announcement κ α}

theorem announced_mem (run : LeaseRun history book) :
    ∀ announcement ∈ history,
      (announcement.client, announcement.address) ∈ book.leases := by
  induction run with
  | start => simp
  | grant run grantable ih =>
      intro announcement member
      rcases List.mem_append.mp member with earlier | last
      · exact Or.inr (ih announcement earlier)
      · rw [List.mem_singleton.mp last]
        exact Or.inl rfl
  | repeated kind run held ih =>
      intro announcement member
      rcases List.mem_append.mp member with earlier | last
      · exact ih announcement earlier
      · rw [List.mem_singleton.mp last]
        exact held

theorem leases_offered (run : LeaseRun history book) :
    ∀ client address, (client, address) ∈ book.leases →
      ⟨.offer, client, address⟩ ∈ history := by
  induction run with
  | start => exact fun _ _ member => member.elim
  | grant run grantable ih =>
      intro client address member
      rcases member with new | old
      · cases new
        simp
      · exact List.mem_append_left _ (ih client address old)
  | repeated kind run held ih =>
      exact fun client address member =>
        List.mem_append_left _ (ih client address member)

/-- No address is announced to two clients. -/
theorem exclusive (run : LeaseRun history book) (hfirst : first ∈ history)
    (hsecond : second ∈ history) (same : first.address = second.address) :
    first.client = second.client := by
  have hfirstLease := run.announced_mem first hfirst
  rw [same] at hfirstLease
  exact book.exclusive hfirstLease (run.announced_mem second hsecond)

/-- A client that can be recognised is told one address only. -/
theorem stable (run : LeaseRun history book) (hfirst : first ∈ history)
    (hsecond : second ∈ history) (hnamed : named first.client)
    (same : first.client = second.client) :
    first.address = second.address := by
  have hsecondLease := run.announced_mem second hsecond
  rw [← same] at hsecondLease
  exact book.single hnamed (run.announced_mem first hfirst) hsecondLease

theorem pooled (run : LeaseRun history book) (member : first ∈ history) :
    pool first.address :=
  book.pooled (run.announced_mem first member)

/-- A confirmation comes after an offer of the same address to the same
client. -/
theorem confirm_after_offer (run : LeaseRun history book) :
    ∀ before client address after,
      history = before ++ ⟨.confirm, client, address⟩ :: after →
        ⟨.offer, client, address⟩ ∈ before := by
  induction run with
  | start => simp
  | grant run grantable ih =>
      intro before client address after equality
      rcases split_snoc equality with ⟨_, last⟩ | ⟨rest, earlier⟩
      · simp at last
      · exact ih before client address rest earlier
  | repeated kind run held ih =>
      intro before client address after equality
      rcases split_snoc equality with ⟨rfl, last⟩ | ⟨rest, earlier⟩
      · simp only [Announcement.mk.injEq] at last
        obtain ⟨-, rfl, rfl⟩ := last
        exact run.leases_offered _ _ held
      · exact ih before client address rest earlier

end LeaseRun

end Foundation
