/-
The gateway.

The gateway answers request bodies one after the other.  Reads leave the store alone; a
transaction that passes all stages changes it as its operation says.

Left out is what no answer and no store shows: the lines that are logged on the way, and how
requests that arrive together wait for each other.
-/
import BlogGateway.Blog.InPlace
import BlogGateway.Broadcast.Dispatcher
import BlogGateway.Gateway.Reads

namespace BlogGateway

open Blog

/-- What a gateway is set up with. -/
structure Gateway where
  chain : ChainId
  authority : Authority
  policy : Policy

namespace Gateway

/-- Where operations of all kinds go: to the store. -/
def table (gateway : Gateway) (moment : Moment) : Broadcast.Table Store :=
  ⟨InPlace.apply gateway.policy moment⟩

/-- What the dispatching of transactions comes to. -/
def transactions (gateway : Gateway) (moment : Moment) : Broadcast.Router Store where
  chain := gateway.chain
  authority := gateway.authority
  table := gateway.table moment

/-- The handlers of the store, registered one kind after the other. -/
def registry (gateway : Gateway) (moment : Moment) : Broadcast.Registry Store :=
  let policy := gateway.policy
  Broadcast.Registry.empty
    |>.on .register (InPlace.register moment)
    |>.on .updateProfile InPlace.updateProfile
    |>.on .follow (InPlace.follow policy moment)
    |>.on .unfollow InPlace.unfollow
    |>.on .uploadMedia (InPlace.uploadMedia policy moment)
    |>.on .addToBlacklistAdmin (InPlace.addToBlacklist policy)
    |>.on .removeFromBlacklistAdmin (InPlace.removeFromBlacklist policy)
    |>.on .addCategoryAdmin (InPlace.addCategory policy)
    |>.on .removeCategoryAdmin (InPlace.removeCategory policy)
    |>.on .updateCategoryAdmin (InPlace.updateCategory policy)
    |>.on .setAccountTrustedAdmin (InPlace.setAccountTrusted policy)
    |>.on .upsertDraft (InPlace.upsertDraft moment)
    |>.on .removeDraft InPlace.removeDraft
    |>.on .markNotificationRead InPlace.markNotificationRead
    |>.on .markAllNotificationsRead InPlace.markAllNotificationsRead
    |>.on .markAllNotificationsSeen InPlace.markAllNotificationsSeen
    |>.on .updateProfileSettings InPlace.updateProfileSettings
    |>.on .registerPushToken InPlace.registerPushToken
    |>.on .downvote InPlace.castDownvote
    |>.on .removeDownvote InPlace.removeDownvote

/-- How transactions are dispatched to the store. -/
def dispatcher (gateway : Gateway) (moment : Moment) : Broadcast.Dispatcher Store where
  chain := gateway.chain
  authority := gateway.authority
  registry := gateway.registry moment

/-- The interface that takes transactions. -/
def broadcastApi : String := "network_broadcast_api"

/-- The method that takes transactions. -/
def broadcastMethod : String := "broadcast_transaction_synchronous"

/-- All calls that the gateway answers. -/
def router (gateway : Gateway) (moment : Moment) : Rpc.Router Store where
  routes :=
    ⟨broadcastApi, broadcastMethod, (gateway.dispatcher moment).route⟩ :: publicReads
      ++ signedReads gateway.chain gateway.authority gateway.policy

/-- Answers a request body. -/
def handle (gateway : Gateway) (moment : Moment) (body : Bytes) (store : Store) :
    Rpc.Router.Handled Store :=
  (gateway.router moment).handle body store

/-- What a request meets: who knows the keys, the moment, and what the body says. -/
structure Turn where
  authority : Authority
  moment : Moment
  body : Bytes

/-- Answers request bodies one after the other, each in a turn of its own. -/
def run (chain : ChainId) (policy : Policy) : List Turn → Store → List Rpc.Response × Store
  | [], store => ([], store)
  | turn :: turns, store =>
    let handled := handle ⟨chain, turn.authority, policy⟩ turn.moment turn.body store
    let (responses, store) := run chain policy turns handled.state
    (handled.response :: responses, store)

end Gateway

end BlogGateway
