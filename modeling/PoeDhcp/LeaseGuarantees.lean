import PoeDhcp.LeaseRuns

namespace PoeDhcp

open Foundation
open DhcpServer

/-! What the abstract service promises, read on the replies of the server. -/

theorem Handled.TellsLease.announced {handled : Handled}
    {identifier : List BYTE} {yiaddr : DWORD}
    (tells : handled.TellsLease identifier yiaddr) :
    ∃ kind, ⟨kind, identifier, dwIpToValue yiaddr⟩ ∈
      handled.announcements := by
  rcases tells with offered | acked
  · refine ⟨.offer, Handled.mem_announcements.mpr ?_⟩
    rw [dwValueToIp_dwIpToValue]
    exact offered
  · refine ⟨.confirm, Handled.mem_announcements.mpr ?_⟩
    rw [dwValueToIp_dwIpToValue]
    exact acked

theorem Handled.announcements_of_mem {handled : Handled}
    {announcement : Announcement (List BYTE) DWORD}
    (member : announcement ∈ handled.announcements) :
    handled.announcements = [announcement] := by
  unfold Handled.announcements at member ⊢
  cases inspected : handled.before.inspect handled.datagram with
  | error decision => simp [inspected] at member
  | ok query =>
      simp only [inspected, Option.mem_toList] at member
      simp only [member, Option.toList_some]

/-- The announcements made by what a run has processed. -/
def announcementsOf (replies : List Handled) :
    List (Announcement (List BYTE) DWORD) :=
  replies.flatMap Handled.announcements

theorem Handled.TellsLease.announced_of_mem {replies : List Handled}
    {handled : Handled} (member : handled ∈ replies)
    {identifier : List BYTE} {yiaddr : DWORD}
    (tells : handled.TellsLease identifier yiaddr) :
    ∃ kind, ⟨kind, identifier, dwIpToValue yiaddr⟩ ∈ announcementsOf replies := by
  obtain ⟨kind, told⟩ := tells.announced
  exact ⟨kind, List.mem_flatMap.mpr ⟨handled, member, told⟩⟩

/-- No address is told to two clients, and every address that is told can be
leased. -/
structure ExclusiveReplies (netAddress : DhcpNetWorkAddr)
    (replies : List Handled) : Prop where
  exclusive : ∀ first ∈ replies, ∀ second ∈ replies,
    ∀ firstClient secondClient yiaddr, first.TellsLease firstClient yiaddr →
      second.TellsLease secondClient yiaddr → firstClient = secondClient
  pooled : ∀ handled ∈ replies, ∀ client yiaddr,
    handled.TellsLease client yiaddr →
      PoolAddress netAddress (dwIpToValue yiaddr)

/-- A client with an identifier is told one address only, and is told in an ACK
only what it was offered earlier. -/
structure StableReplies (replies : List Handled) : Prop where
  single : ∀ first ∈ replies, ∀ second ∈ replies,
    ∀ client firstAddr secondAddr, client ≠ [] →
      first.TellsLease client firstAddr →
        second.TellsLease client secondAddr → firstAddr = secondAddr
  offered : ∀ before acked after client yiaddr,
    replies = before ++ acked :: after → acked.Tells .ack client yiaddr →
      ∃ offered ∈ before, offered.Tells .offer client yiaddr

theorem ExclusiveReplies.of_leaseRun {netAddress : DhcpNetWorkAddr}
    {replies : List Handled} {book : Book netAddress}
    (run : LeaseRun (announcementsOf replies) book) :
    ExclusiveReplies netAddress replies where
  exclusive := by
    intro first hfirst second hsecond firstClient secondClient yiaddr
      firstTells secondTells
    obtain ⟨firstKind, firstTold⟩ := firstTells.announced_of_mem hfirst
    obtain ⟨secondKind, secondTold⟩ := secondTells.announced_of_mem hsecond
    exact run.exclusive firstTold secondTold rfl
  pooled := by
    intro handled member client yiaddr tells
    obtain ⟨kind, told⟩ := tells.announced_of_mem member
    exact run.pooled told

theorem StableReplies.of_leaseRun {netAddress : DhcpNetWorkAddr}
    {replies : List Handled} {book : Book netAddress}
    (run : LeaseRun (announcementsOf replies) book) : StableReplies replies where
  single := by
    intro first hfirst second hsecond client firstAddr secondAddr nonempty
      firstTells secondTells
    obtain ⟨firstKind, firstTold⟩ := firstTells.announced_of_mem hfirst
    obtain ⟨secondKind, secondTold⟩ := secondTells.announced_of_mem hsecond
    have same : dwIpToValue firstAddr = dwIpToValue secondAddr :=
      run.stable firstTold secondTold nonempty rfl
    simpa using congrArg dwValueToIp same
  offered := by
    intro before acked after client yiaddr split tells
    rw [← dwValueToIp_dwIpToValue yiaddr] at tells
    have told : ⟨.confirm, client, dwIpToValue yiaddr⟩ ∈
        acked.announcements := Handled.mem_announcements.mpr tells
    have history : announcementsOf replies =
        announcementsOf before ++
          ⟨.confirm, client, dwIpToValue yiaddr⟩ :: announcementsOf after := by
      simp [announcementsOf, split, Handled.announcements_of_mem told]
    have earlier := run.confirm_after_offer _ _ _ _ history
    obtain ⟨offered, member, offer⟩ := List.mem_flatMap.mp earlier
    refine ⟨offered, member, ?_⟩
    rw [← dwValueToIp_dwIpToValue yiaddr]
    exact Handled.mem_announcements.mp offer

/-! Both hold of every run of a server object, with any calls of `Start` and
`Stop` in it. -/

theorem replies_exclusive (netAddress : DhcpNetWorkAddr)
    (events : List Event) :
    ExclusiveReplies netAddress
      (serverMachine.outputs (construct netAddress) events) := by
  obtain ⟨book, -, run⟩ := run_simulates netAddress events
  exact .of_leaseRun run

theorem replies_stable (netAddress : DhcpNetWorkAddr) (events : List Event) :
    StableReplies (serverMachine.outputs (construct netAddress) events) := by
  obtain ⟨book, -, run⟩ := run_simulates netAddress events
  exact .of_leaseRun run

end PoeDhcp
