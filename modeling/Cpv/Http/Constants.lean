import Cpv.Utility.SharedString

namespace cpv.constants

def Http10 : SharedString := text "HTTP/1.0"
def Http11 : SharedString := text "HTTP/1.1"
def Http12 : SharedString := text "HTTP/1.2"

def GET : SharedString := text "GET"
def POST : SharedString := text "POST"

def _200 : SharedString := text "200"
def _206 : SharedString := text "206"
def _304 : SharedString := text "304"
def _500 : SharedString := text "500"
def OK : SharedString := text "OK"
def PartialContent : SharedString := text "Partial Content"
def NotModified : SharedString := text "Not Modified"
def InternalServerError : SharedString := text "Internal Server Error"

def Accept : SharedString := text "Accept"
def AcceptEncoding : SharedString := text "Accept-Encoding"
def AcceptLanguage : SharedString := text "Accept-Language"
def CacheControl : SharedString := text "Cache-Control"
def Connection : SharedString := text "Connection"
def ContentEncoding : SharedString := text "Content-Encoding"
def ContentLength : SharedString := text "Content-Length"
def ContentRange : SharedString := text "Content-Range"
def ContentType : SharedString := text "Content-Type"
def Cookie : SharedString := text "Cookie"
def Date : SharedString := text "Date"
def DNT : SharedString := text "DNT"
def ETag : SharedString := text "ETag"
def Expires : SharedString := text "Expires"
def Host : SharedString := text "Host"
def IfModifiedSince : SharedString := text "If-Modified-Since"
def LastModified : SharedString := text "Last-Modified"
def Pragma : SharedString := text "Pragma"
def Range : SharedString := text "Range"
def Server : SharedString := text "Server"
def SetCookie : SharedString := text "SetCookie"
def TransferEncoding : SharedString := text "Transfer-Encoding"
def UpgradeInsecureRequests : SharedString := text "Upgrade-Insecure-Requests"
def UserAgent : SharedString := text "User-Agent"
def Vary : SharedString := text "Vary"
def XRequestedWith : SharedString := text "X-Requested-With"

def Chunked : SharedString := text "chunked"
def Keepalive : SharedString := text "keep-alive"
def Close : SharedString := text "close"
def TextPlainUtf8 : SharedString := text "text/plain;charset=utf-8"
def CPVFramework : SharedString := text "cpv-framework"

def CRLF : SharedString := [13, 10]
def CRLFCRLF : SharedString := [13, 10, 13, 10]
def ColonSpace : SharedString := text ": "
def Space : SharedString := text " "
def Hyphen : SharedString := text "-"
def Slash : SharedString := text "/"

-- reduce fragments for common headers
namespace with_crlf_colonspace

def Host : SharedString := text "\r\nHost: "
def ContentType : SharedString := text "\r\nContent-Type: "
def ContentLength : SharedString := text "\r\nContent-Length: "
def Connection : SharedString := text "\r\nConnection: "
def Pragma : SharedString := text "\r\nPragma: "
def UpgradeInsecureRequests : SharedString := text "\r\nUpgrade-Insecure-Requests: "
def DNT : SharedString := text "\r\nDNT: "
def UserAgent : SharedString := text "\r\nUser-Agent: "
def Accept : SharedString := text "\r\nAccept: "
def AcceptEncoding : SharedString := text "\r\nAccept-Encoding: "
def AcceptLanguage : SharedString := text "\r\nAccept-Language: "
def Cookie : SharedString := text "\r\nCookie: "
def XRequestedWith : SharedString := text "\r\nX-Requested-With: "
def Date : SharedString := text "\r\nDate: "
def ContentEncoding : SharedString := text "\r\nContent-Encoding: "
def TransferEncoding : SharedString := text "\r\nTransfer-Encoding: "
def Server : SharedString := text "\r\nServer: "
def Vary : SharedString := text "\r\nVary: "
def ETag : SharedString := text "\r\nETag: "
def CacheControl : SharedString := text "\r\nCache-Control: "
def Expires : SharedString := text "\r\nExpires: "
def LastModified : SharedString := text "\r\nLast-Modified: "

end with_crlf_colonspace

end cpv.constants
