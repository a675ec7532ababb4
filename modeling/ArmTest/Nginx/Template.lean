import ArmTest.Shell.Text

/-!
# The shipped configuration file

`nginx.conf` is a list of lines.  Three of them are edited by the server script: the number of
workers, their processor masks and the compression switch.  All other lines form a fixed frame.
This file holds the frame, the `sed` edits of the script and the way the directives are read back.
-/

namespace Nginx

open Shell

/-! ## The shipped file -/

/-- Lines above the worker directives. -/
def confHead : List Text :=
  ["",
    "#user  nobody;",
    "user root;"]

/-- Lines between the worker directives and the compression switch. -/
def confMiddle : List Text :=
  ["worker_rlimit_nofile 104857600;",
    "",
    "#error_log  logs/error.log;",
    "#error_log  logs/error.log  notice;",
    "#error_log  logs/error.log  info;",
    "error_log   /var/log/error.log;",
    "",
    "pid         /run/nginx.pid;",
    "",
    "events \x7b",
    "    use epoll;",
    "    accept_mutex off;",
    "    worker_connections  10240;",
    "\x7d",
    "",
    "",
    "http \x7b",
    "    include       mime.types;",
    "    default_type  application/octet-stream;",
    "",
    "    #log_format  main  '$remote_addr - $remote_user [$time_local] \"$request\" '",
    "    #                  '$status $body_bytes_sent \"$http_referer\" '",
    "    #                  '\"$http_user_agent\" \"$http_x_forwarded_for\"';",
    "",
    "    #access_log  logs/access.log  main;",
    "    access_log     off;",
    "",
    "    sendfile        on;"]

/-- Lines below the compression switch. -/
def confTail : List Text :=
  ["    gzip_types *;",
    "",
    "    open_file_cache max=10240000 inactive=60s;",
    "    open_file_cache_valid 80s;",
    "    open_file_cache_min_uses 1;",
    "    keepalive_requests 10000000000;",
    "    keepalive_timeout  300s;",
    "",
    "    tcp_nopush     on;",
    "    tcp_nodelay         on;",
    "    types_hash_max_size 4096;",
    "",
    "    server \x7b",
    "        listen       80;",
    "        server_name  localhost;",
    "",
    "        #charset koi8-r;",
    "",
    "        #access_log  logs/host.access.log  main;",
    "",
    "        location / \x7b",
    "            root   html;",
    "            index  index.html index.htm;",
    "        \x7d",
    "",
    "        #error_page  404              /404.html;",
    "",
    "        # redirect server error pages to the static page /50x.html",
    "        #",
    "        error_page   500 502 503 504  /50x.html;",
    "        location = /50x.html \x7b",
    "            root   html;",
    "        \x7d",
    "",
    "        # proxy the PHP scripts to Apache listening on 127.0.0.1:80",
    "        #",
    "        #location ~ \\.php$ \x7b",
    "        #    proxy_pass   http://127.0.0.1;",
    "        #\x7d",
    "",
    "        # pass the PHP scripts to FastCGI server listening on 127.0.0.1:9000",
    "        #",
    "        #location ~ \\.php$ \x7b",
    "        #    root           html;",
    "        #    fastcgi_pass   127.0.0.1:9000;",
    "        #    fastcgi_index  index.php;",
    "        #    fastcgi_param  SCRIPT_FILENAME  /scripts$fastcgi_script_name;",
    "        #    include        fastcgi_params;",
    "        #\x7d",
    "",
    "        # deny access to .htaccess files, if Apache's document root",
    "        # concurs with nginx's one",
    "        #",
    "        #location ~ /\\.ht \x7b",
    "        #    deny  all;",
    "        #\x7d",
    "    \x7d",
    "",
    "",
    "    # another virtual host using mix of IP-, name-, and port-based configuration",
    "    #",
    "    #server \x7b",
    "    #    listen       8000;",
    "    #    listen       somename:8080;",
    "    #    server_name  somename  alias  another.alias;",
    "",
    "    #    location / \x7b",
    "    #        root   html;",
    "    #        index  index.html index.htm;",
    "    #    \x7d",
    "    #\x7d",
    "",
    "",
    "    # HTTPS server",
    "    #",
    "    server \x7b",
    "        listen       443 ssl;",
    "        server_name  localhost;",
    "",
    "        ssl_certificate      /usr/local/nginx/cert/hj.crt;",
    "        ssl_certificate_key  /usr/local/nginx/cert/hj.key;",
    "",
    "\tssl_protocols        TLSv1 TLSv1.1 TLSv1.2 TLSv1.3;",
    "        ssl_session_cache    shared:SSL:1m;",
    "        ssl_session_timeout  5m;",
    "",
    "        ssl_ciphers  HIGH:!aNULL:!MD5;",
    "        ssl_prefer_server_ciphers  on;",
    "",
    "        location / \x7b",
    "            root   html;",
    "            index  index.html index.htm;",
    "        \x7d",
    "    \x7d",
    "",
    "\x7d"]

/-! ## Edits -/

/-- `s/\(directive\) .*/\1 value/` on one line. -/
def setDirective (directive value : Text) : Text → Text
  | [] => []
  | c :: cs =>
      if (directive ++ " ").isPrefixOf (c :: cs) then directive ++ " " ++ value
      else c :: setDirective directive value cs

/-- Does the directive with a blank behind it occur in the line? -/
def mentions (directive : Text) : Text → Bool
  | [] => false
  | c :: cs => (directive ++ " ").isPrefixOf (c :: cs) || mentions directive cs

/-- `/directive/d` on the whole file. -/
def deleteLines (directive : Text) (conf : List Text) : List Text :=
  conf.filter fun line => !grepQ directive line

theorem setDirective_of_not_mentions {directive line : Text} (value : Text)
    (absent : mentions directive line = false) : setDirective directive value line = line := by
  induction line with
  | nil => rfl
  | cons c cs induction =>
      simp only [mentions, Bool.or_eq_false_iff] at absent
      rw [setDirective, absent.1, if_neg (by simp), induction absent.2]

/-- A line without the first letter of the directive does not mention it. -/
theorem mentions_of_not_mem {letter : Char} {rest line : Text} (absent : letter ∉ line) :
    mentions (letter :: rest) line = false := by
  induction line with
  | nil => rfl
  | cons c cs induction =>
      simp only [List.mem_cons, not_or] at absent
      simp [mentions, List.isPrefixOf, absent.1, induction absent.2]

/-! ## Reading the file -/

/-- Words of a line up to its semicolon, as the configuration parser separates unquoted words; the
first argument is the word being read. -/
def readWords : Text → Text → List Text
  | word, [] => if word = [] then [] else [word]
  | word, c :: cs =>
      if c = ' ' ∨ c = '\t' then (if word = [] then [] else [word]) ++ readWords [] cs
      else if c = ';' then (if word = [] then [] else [word])
      else if c = '#' ∧ word = [] then []
      else readWords (word ++ [c]) cs

/-- Arguments of the directive on a line, if the line holds it. -/
def lineArgs (directive line : Text) : Option (List Text) :=
  match readWords [] line with
  | [] => none
  | word :: args => if word = directive then some args else none

/-- Arguments of every occurrence of a directive. -/
def directiveArgs (directive : Text) (conf : List Text) : List (List Text) :=
  conf.filterMap (lineArgs directive)

/-- The line holds none of the edited directives and no edit matches it. -/
def bystander (line : Text) : Bool :=
  !mentions "worker_processes" line && !mentions "worker_cpu_affinity" line &&
    !mentions "gzip" line && !grepQ "worker_cpu_affinity" line &&
    (lineArgs "worker_processes" line).isNone && (lineArgs "worker_cpu_affinity" line).isNone

/-! ## The lines of the frame -/

/-- A literal is the text of its letters; to decode it again for every check would be slow. -/
theorem and_literal {check : Text → Bool} {letters : Text} {rest : Bool}
    (head : check letters = true) (tail : rest = true) :
    (check (String.ofList letters).toList && rest) = true := by
  rw [String.toList_ofList, head, tail]
  rfl

/-- A long list of literals becomes a list of texts as a whole. -/
theorem all_coerced (check : Text → Bool) (literals : List String) :
    (do
      let literal ← literals
      pure literal.toList : List Text).all check =
        literals.all fun literal => check literal.toList := by
  rw [bind_pure_comp, List.map_eq_map, List.all_map]
  rfl

/-- Every line of the frame is a bystander. -/
theorem frame_bystander : (confHead ++ confMiddle ++ confTail).all bystander = true := by
  rw [List.all_append, List.all_append, Bool.and_eq_true, Bool.and_eq_true]
  unfold confHead confMiddle confTail
  simp only [List.all_cons, all_coerced, List.all_nil, -String.reduceToList]
  refine ⟨⟨?_, ?_⟩, ?_⟩
  all_goals
    repeat
      refine and_literal ?_ ?_
      · decide +kernel
    rfl

end Nginx
