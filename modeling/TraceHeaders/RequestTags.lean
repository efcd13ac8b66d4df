import TraceHeaders.Context
import TraceHeaders.Headers

namespace TraceHeaders.RequestTags

def wholeHeaders : List Text :=
  ["forwarded".toList, "forwarded-for".toList, "x-forwarded".toList, "x-forwarded-for".toList,
   "via".toList, "x-client-ip".toList, "true-client-ip".toList, "x-cluster-client-ip".toList,
   "x-real-ip".toList, "fastly-client-ip".toList, "cf-connecting-ip".toList,
   "cf-connecting-ipv6".toList, "user-agent".toList]

def firstHopHeaders : List Text :=
  ["x-forwarded-proto".toList, "x-forwarded-host".toList, "x-forwarded-port".toList]

def tagName (header : Text) : Text := "http.request.headers.".toList ++ header

def firstValue? (t : Text) : Option Text := Text.trimmed? (t.takeWhile (· ≠ ','))

def tag? (v : HeaderView) (read : Text → Option Text) (header : Text) : Option (Text × Text) :=
  ((v.get? header).bind read).map (tagName header, ·)

def collect (v : HeaderView) : Dict Text :=
  .ofList (wholeHeaders.filterMap (tag? v Text.trimmed?) ++
    firstHopHeaders.filterMap (tag? v firstValue?))

def finding? (style : Style) (v : HeaderView) (origin : Option Text) (baggage : Dict Text) :
    Option Finding :=
  if (collect v).isEmpty && origin.isNone then none
  else some (.incomplete { style, origin, requestTags := collect v, baggage })

end TraceHeaders.RequestTags
