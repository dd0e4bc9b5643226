import SalesforceTikTok.Auth.RefreshLifetime
import SalesforceTikTok.Server.Composition

/-!
# What the server stores of tokens

The token store of a server is filled by callbacks and refreshes only, whatever else the
server does. So its rows and copies are those of token pairs that TikTok delivered to a call
of the server, and they expire no later than the refresh token they came with.
-/

namespace SalesforceTikTok

open Concurrency

/-! ## Traces under other numbers -/

theorem Received.under {trace : List TokenRecord} {pid : Nat} {data : TokenData} {now : Int}
    (h : Received trace pid data now) (owners : List Nat) :
    Received (trace.map (Record.under owners)) (owners.getD pid 0) data now := by
  obtain ⟨⟨r, hr, rfl, issued⟩, timed⟩ := h
  exact ⟨⟨r.under owners, List.mem_map_of_mem hr, rfl, issued⟩,
    List.mem_map_of_mem (f := Record.under owners) timed⟩

theorem StoredToken.Produced.under {row : StoredToken} {trace : List TokenRecord}
    (h : row.Produced trace) (owners : List Nat) :
    row.Produced (trace.map (Record.under owners)) := by
  obtain ⟨pid, data, now, received, same⟩ := h
  exact ⟨_, data, now, received.under owners, same⟩

theorem RefreshOutlasts.under {trace : List TokenRecord} {w : TokenWorld}
    (h : RefreshOutlasts trace w) (owners : List Nat) :
    RefreshOutlasts (trace.map (Record.under owners)) w where
  rows a row found := (h.rows a row found).imp_left fun produced => produced.under owners
  copies key token expiry found := by
    obtain ⟨row, produced, same, outlasted⟩ := h.copies key token expiry found
    exact ⟨row, produced.under owners, same, outlasted⟩

namespace Server

variable {S : Server} {u : TokenWorld} {c : ServerConfig}
  {d : TokenConfig (TokenProg TokenResult)} {owners : List Nat}
  (part : S.tokens.Part tokenSystem ServerCall.Tokens u c d owners)

include part

/-- The token store has no commands but those that the server answered. -/
theorem token_notes : c.trace.filterMap tokenPart = d.trace.map (Record.under owners) := by
  have notes : c.trace.filterMap tokenPart = _ := part.notes
  have all : (d.trace.filter fun r => S.tokens.direct r.cmd) = d.trace :=
    List.filter_eq_self.mpr fun _ _ => rfl
  rw [notes, all]

/-- No call of the server stores a row that it was not delivered. -/
theorem no_direct_store {taken : List TokenAction}
    (reached : tokenSystem.run (.initial u) taken = some d) :
    ∀ act ∈ taken, storesDirectly act = false := by
  intro act mem
  cases act with
  | start call =>
      cases call with
      | upsert params =>
          obtain ⟨q, among, entry⟩ := List.mem_map.mp (System.started_entry reached mem)
          obtain ⟨i, here⟩ := List.mem_iff_getElem?.mp among
          obtain ⟨pid, p, _, _, fits⟩ := part.owned here
          rw [entry] at fits
          cases call : p.entry with
          | _ =>
              rw [call] at fits
              exact fits.elim
      | _ => rfl
  | _ => rfl

omit part in
/-- In every reachable state of the server every row of the token store and every copy is that of
a token pair that one of its calls was delivered, dated by the clock as that call read it, and
expires no later than the refresh token of the pair. -/
theorem stored_tokens_delivered {clock : Int} {actions : List ServerAction}
    (h : S.system.run (.initial (.fresh clock)) actions = some c) :
    RefreshOutlasts (c.trace.filterMap tokenPart) c.world.token := by
  obtain ⟨d, owners, part⟩ := Interface.run_hosted tokens_embeds
    (u := .fresh clock) ⟨rfl, fun _ => rfl⟩ h
  obtain ⟨taken, reached⟩ := part.reached
  have outlasts := (active_token_refreshable reached (no_direct_store part reached)).1
  have world : c.world.token = d.world := part.world.1
  rw [token_notes part, world]
  exact outlasts.under owners

end Server

open ServerSample in
/-- The token of the authorised advertiser. -/
theorem stored_token_granted :
    let c := after granting (by decide)
    ∃ row : StoredToken, c.world.token.rows.lookup "adv-001" = some row ∧
      row.accessToken = "access-abc" ∧ row.Produced (c.trace.filterMap tokenPart) := by
  intro c
  have stored : (c.world.token.rows.lookup "adv-001").map StoredToken.accessToken =
      some "access-abc" := by decide
  obtain ⟨row, found, same⟩ := Option.map_eq_some_iff.mp stored
  have run : server.system.run (.initial (.fresh 0)) granting = some c := System.run_result _
  exact ⟨row, found, same, ((Server.stored_tokens_delivered run).rows _ row found).1⟩

end SalesforceTikTok
