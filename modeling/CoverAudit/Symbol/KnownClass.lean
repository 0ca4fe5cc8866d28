import CoverAudit.Text.Split

/-!
# Classes known without reading their source

The attributes of builtin and standard-library classes that a class may derive from. A class is
known by its qualified name; a name without a module is that of a builtin.

The table is a choice of such classes, not all of them: it serves a run that has no interpreter to
ask. So nothing about an audit rests on it. Whatever looks at classes outside of an index takes the
answers as a parameter, and `hasMember?` is one value of it.
-/

namespace CoverAudit.KnownClass

/-- The attributes that every class has. -/
def commonMembers : List String :=
  Text.words "__base__ __bases__ __basicsize__ __call__ __class__ __delattr__ __dict__
    __dictoffset__ __dir__ __doc__ __eq__ __flags__ __format__ __ge__ __getattribute__
    __getstate__ __gt__ __hash__ __init__ __init_subclass__ __instancecheck__ __itemsize__ __le__
    __lt__ __module__ __mro__ __name__ __ne__ __new__ __or__ __prepare__ __qualname__ __reduce__
    __reduce_ex__ __repr__ __ror__ __setattr__ __sizeof__ __str__ __subclasscheck__
    __subclasses__ __subclasshook__ __text_signature__ __weakrefoffset__ mro"

/-- The known classes by qualified name, each with its attributes besides the common ones. -/
def classes : List (String × List String) :=
  [("_thread.LockType",
      Text.words "__annotations__ __enter__ __exit__ _at_fork_reinit acquire acquire_lock locked
        locked_lock release release_lock"),
    ("abc.ABC",
      Text.words "__abstractmethods__ __annotations__ __slots__ _abc_caches_clear _abc_impl
        _abc_registry_clear _dump_registry register"),
    ("abc.ABCMeta",
      Text.words "__annotations__ _abc_caches_clear _abc_registry_clear _dump_registry register"),
    ("builtins.BaseException",
      Text.words "__cause__ __context__ __setstate__ __suppress_context__ __traceback__ add_note
        args with_traceback"),
    ("builtins.Exception",
      Text.words "__cause__ __context__ __setstate__ __suppress_context__ __traceback__ add_note
        args with_traceback"),
    ("builtins.ExceptionGroup",
      Text.words "__annotations__ __cause__ __class_getitem__ __context__ __setstate__
        __suppress_context__ __traceback__ __weakref__ add_note args derive exceptions message
        split subgroup with_traceback"),
    ("builtins.ImportError",
      Text.words "__cause__ __context__ __setstate__ __suppress_context__ __traceback__ add_note
        args msg name path with_traceback"),
    ("builtins.KeyError",
      Text.words "__cause__ __context__ __setstate__ __suppress_context__ __traceback__ add_note
        args with_traceback"),
    ("builtins.OSError",
      Text.words "__cause__ __context__ __setstate__ __suppress_context__ __traceback__ add_note
        args characters_written errno filename filename2 strerror with_traceback"),
    ("builtins.StopIteration",
      Text.words "__cause__ __context__ __setstate__ __suppress_context__ __traceback__ add_note
        args value with_traceback"),
    ("builtins.SyntaxError",
      Text.words "__cause__ __context__ __setstate__ __suppress_context__ __traceback__ add_note
        args end_lineno end_offset filename lineno msg offset print_file_and_line text
        with_traceback"),
    ("builtins.UnicodeDecodeError",
      Text.words "__cause__ __context__ __setstate__ __suppress_context__ __traceback__ add_note
        args encoding end object reason start with_traceback"),
    ("builtins.ValueError",
      Text.words "__cause__ __context__ __setstate__ __suppress_context__ __traceback__ add_note
        args with_traceback"),
    ("builtins.bool",
      Text.words "__abs__ __add__ __and__ __bool__ __ceil__ __divmod__ __float__ __floor__
        __floordiv__ __getnewargs__ __index__ __int__ __invert__ __lshift__ __mod__ __mul__
        __neg__ __pos__ __pow__ __radd__ __rand__ __rdivmod__ __rfloordiv__ __rlshift__ __rmod__
        __rmul__ __round__ __rpow__ __rrshift__ __rshift__ __rsub__ __rtruediv__ __rxor__ __sub__
        __truediv__ __trunc__ __xor__ as_integer_ratio bit_count bit_length conjugate denominator
        from_bytes imag numerator real to_bytes"),
    ("builtins.bytes",
      Text.words "__add__ __bytes__ __contains__ __getitem__ __getnewargs__ __iter__ __len__
        __mod__ __mul__ __rmod__ __rmul__ capitalize center count decode endswith expandtabs find
        fromhex hex index isalnum isalpha isascii isdigit islower isspace istitle isupper join
        ljust lower lstrip maketrans partition removeprefix removesuffix replace rfind rindex
        rjust rpartition rsplit rstrip split splitlines startswith strip swapcase title translate
        upper zfill"),
    ("builtins.complex",
      Text.words "__abs__ __add__ __bool__ __complex__ __getnewargs__ __mul__ __neg__ __pos__
        __pow__ __radd__ __rmul__ __rpow__ __rsub__ __rtruediv__ __sub__ __truediv__ conjugate
        imag real"),
    ("builtins.dict",
      Text.words "__class_getitem__ __contains__ __delitem__ __getitem__ __ior__ __iter__ __len__
        __reversed__ __setitem__ clear copy fromkeys get items keys pop popitem setdefault update
        values"),
    ("builtins.float",
      Text.words "__abs__ __add__ __bool__ __ceil__ __divmod__ __float__ __floor__ __floordiv__
        __getformat__ __getnewargs__ __int__ __mod__ __mul__ __neg__ __pos__ __pow__ __radd__
        __rdivmod__ __rfloordiv__ __rmod__ __rmul__ __round__ __rpow__ __rsub__ __rtruediv__
        __sub__ __truediv__ __trunc__ as_integer_ratio conjugate fromhex hex imag is_integer real"),
    ("builtins.frozenset",
      Text.words "__and__ __class_getitem__ __contains__ __iter__ __len__ __rand__ __rsub__
        __rxor__ __sub__ __xor__ copy difference intersection isdisjoint issubset issuperset
        symmetric_difference union"),
    ("builtins.int",
      Text.words "__abs__ __add__ __and__ __bool__ __ceil__ __divmod__ __float__ __floor__
        __floordiv__ __getnewargs__ __index__ __int__ __invert__ __lshift__ __mod__ __mul__
        __neg__ __pos__ __pow__ __radd__ __rand__ __rdivmod__ __rfloordiv__ __rlshift__ __rmod__
        __rmul__ __round__ __rpow__ __rrshift__ __rshift__ __rsub__ __rtruediv__ __rxor__ __sub__
        __truediv__ __trunc__ __xor__ as_integer_ratio bit_count bit_length conjugate denominator
        from_bytes imag numerator real to_bytes"),
    ("builtins.list",
      Text.words "__add__ __class_getitem__ __contains__ __delitem__ __getitem__ __iadd__
        __imul__ __iter__ __len__ __mul__ __reversed__ __rmul__ __setitem__ append clear copy
        count extend index insert pop remove reverse sort"),
    ("builtins.object", []),
    ("builtins.property",
      Text.words "__delete__ __get__ __isabstractmethod__ __set__ __set_name__ deleter fdel fget
        fset getter setter"),
    ("builtins.set",
      Text.words "__and__ __class_getitem__ __contains__ __iand__ __ior__ __isub__ __iter__
        __ixor__ __len__ __rand__ __rsub__ __rxor__ __sub__ __xor__ add clear copy difference
        difference_update discard intersection intersection_update isdisjoint issubset issuperset
        pop remove symmetric_difference symmetric_difference_update union update"),
    ("builtins.str",
      Text.words "__add__ __contains__ __getitem__ __getnewargs__ __iter__ __len__ __mod__
        __mul__ __rmod__ __rmul__ capitalize casefold center count encode endswith expandtabs
        find format format_map index isalnum isalpha isascii isdecimal isdigit isidentifier
        islower isnumeric isprintable isspace istitle isupper join ljust lower lstrip maketrans
        partition removeprefix removesuffix replace rfind rindex rjust rpartition rsplit rstrip
        split splitlines startswith strip swapcase title translate upper zfill"),
    ("builtins.tuple",
      Text.words "__add__ __class_getitem__ __contains__ __getitem__ __getnewargs__ __iter__
        __len__ __mul__ __rmul__ count index"),
    ("builtins.type", []),
    ("collections.Counter",
      Text.words "__add__ __and__ __annotations__ __class_getitem__ __contains__ __delitem__
        __getitem__ __iadd__ __iand__ __ior__ __isub__ __iter__ __len__ __missing__ __neg__
        __pos__ __reversed__ __setitem__ __sub__ __weakref__ _keep_positive clear copy elements
        fromkeys get items keys most_common pop popitem setdefault subtract total update values"),
    ("collections.OrderedDict",
      Text.words "__class_getitem__ __contains__ __delitem__ __getitem__ __ior__ __iter__ __len__
        __reversed__ __setitem__ clear copy fromkeys get items keys move_to_end pop popitem
        setdefault update values"),
    ("collections.UserDict",
      Text.words "_MutableMapping__marker __abstractmethods__ __annotations__ __class_getitem__
        __contains__ __copy__ __delitem__ __getitem__ __ior__ __iter__ __len__ __reversed__
        __setitem__ __slots__ __weakref__ _abc_caches_clear _abc_impl _abc_registry_clear
        _dump_registry clear copy fromkeys get items keys pop popitem register setdefault update
        values"),
    ("collections.abc.Mapping",
      Text.words "__abstractmethods__ __annotations__ __class_getitem__ __contains__ __getitem__
        __iter__ __len__ __reversed__ __slots__ _abc_caches_clear _abc_impl _abc_registry_clear
        _dump_registry get items keys register values"),
    ("collections.abc.MutableMapping",
      Text.words "_MutableMapping__marker __abstractmethods__ __annotations__ __class_getitem__
        __contains__ __delitem__ __getitem__ __iter__ __len__ __reversed__ __setitem__ __slots__
        _abc_caches_clear _abc_impl _abc_registry_clear _dump_registry clear get items keys pop
        popitem register setdefault update values"),
    ("collections.abc.Sequence",
      Text.words "__abstractmethods__ __annotations__ __class_getitem__ __contains__ __getitem__
        __iter__ __len__ __reversed__ __slots__ _abc_caches_clear _abc_impl _abc_registry_clear
        _dump_registry count index register"),
    ("collections.defaultdict",
      Text.words "__class_getitem__ __contains__ __copy__ __delitem__ __getitem__ __ior__
        __iter__ __len__ __missing__ __reversed__ __setitem__ clear copy default_factory fromkeys
        get items keys pop popitem setdefault update values"),
    ("collections.deque",
      Text.words "__add__ __class_getitem__ __contains__ __copy__ __delitem__ __getitem__
        __iadd__ __imul__ __iter__ __len__ __mul__ __reversed__ __rmul__ __setitem__ append
        appendleft clear copy count extend extendleft index insert maxlen pop popleft remove
        reverse rotate"),
    ("contextlib.ContextDecorator",
      Text.words "__annotations__ __weakref__ _recreate_cm"),
    ("datetime.date",
      Text.words "__add__ __radd__ __rsub__ __sub__ ctime day fromisocalendar fromisoformat
        fromordinal fromtimestamp isocalendar isoformat isoweekday max min month replace
        resolution strftime timetuple today toordinal weekday year"),
    ("datetime.datetime",
      Text.words "__add__ __radd__ __rsub__ __sub__ astimezone combine ctime date day dst fold
        fromisocalendar fromisoformat fromordinal fromtimestamp hour isocalendar isoformat
        isoweekday max microsecond min minute month now replace resolution second strftime
        strptime time timestamp timetuple timetz today toordinal tzinfo tzname utcfromtimestamp
        utcnow utcoffset utctimetuple weekday year"),
    ("decimal.Decimal",
      Text.words "__abs__ __add__ __bool__ __ceil__ __complex__ __copy__ __deepcopy__ __divmod__
        __float__ __floor__ __floordiv__ __int__ __mod__ __mul__ __neg__ __pos__ __pow__ __radd__
        __rdivmod__ __rfloordiv__ __rmod__ __rmul__ __round__ __rpow__ __rsub__ __rtruediv__
        __sub__ __truediv__ __trunc__ adjusted as_integer_ratio as_tuple canonical compare
        compare_signal compare_total compare_total_mag conjugate copy_abs copy_negate copy_sign
        exp fma from_float imag is_canonical is_finite is_infinite is_nan is_normal is_qnan
        is_signed is_snan is_subnormal is_zero ln log10 logb logical_and logical_invert
        logical_or logical_xor max max_mag min min_mag next_minus next_plus next_toward normalize
        number_class quantize radix real remainder_near rotate same_quantum scaleb shift sqrt
        to_eng_string to_integral to_integral_exact to_integral_value"),
    ("enum.Enum",
      Text.words "__annotations__ __bool__ __contains__ __getattr__ __getitem__ __iter__ __len__
        __members__ __reversed__ _check_for_existing_members_ _convert_ _create_ _find_data_repr_
        _find_data_type_ _find_new_ _get_mixins_"),
    ("enum.Flag",
      Text.words "__annotations__ __bool__ __contains__ __getattr__ __getitem__ __iter__ __len__
        __members__ __reversed__ _check_for_existing_members_ _convert_ _create_ _find_data_repr_
        _find_data_type_ _find_new_ _get_mixins_"),
    ("enum.IntEnum",
      Text.words "__abs__ __add__ __and__ __annotations__ __bool__ __ceil__ __contains__
        __divmod__ __float__ __floor__ __floordiv__ __getattr__ __getitem__ __getnewargs__
        __index__ __int__ __invert__ __iter__ __len__ __lshift__ __members__ __mod__ __mul__
        __neg__ __pos__ __pow__ __radd__ __rand__ __rdivmod__ __reversed__ __rfloordiv__
        __rlshift__ __rmod__ __rmul__ __round__ __rpow__ __rrshift__ __rshift__ __rsub__
        __rtruediv__ __rxor__ __sub__ __truediv__ __trunc__ __xor__ _check_for_existing_members_
        _convert_ _create_ _find_data_repr_ _find_data_type_ _find_new_ _get_mixins_
        as_integer_ratio bit_count bit_length conjugate denominator from_bytes imag numerator
        real to_bytes"),
    ("enum.auto",
      Text.words "__annotations__ __weakref__"),
    ("fractions.Fraction",
      Text.words "__abs__ __abstractmethods__ __add__ __annotations__ __bool__ __ceil__
        __complex__ __copy__ __deepcopy__ __divmod__ __float__ __floor__ __floordiv__ __int__
        __mod__ __mul__ __neg__ __pos__ __pow__ __radd__ __rdivmod__ __rfloordiv__ __rmod__
        __rmul__ __round__ __rpow__ __rsub__ __rtruediv__ __slots__ __sub__ __truediv__ __trunc__
        _abc_caches_clear _abc_impl _abc_registry_clear _add _denominator _div _divmod
        _dump_registry _floordiv _mod _mul _numerator _operator_fallbacks _richcmp _sub
        as_integer_ratio conjugate denominator from_decimal from_float imag limit_denominator
        numerator real register"),
    ("io.BytesIO",
      Text.words "__del__ __enter__ __exit__ __iter__ __next__ __setstate__ _checkClosed
        _checkReadable _checkSeekable _checkWritable close closed detach fileno flush getbuffer
        getvalue isatty read read1 readable readinto readinto1 readline readlines seek seekable
        tell truncate writable write writelines"),
    ("io.StringIO",
      Text.words "__del__ __enter__ __exit__ __iter__ __next__ __setstate__ _checkClosed
        _checkReadable _checkSeekable _checkWritable close closed detach encoding errors fileno
        flush getvalue isatty line_buffering newlines read readable readline readlines seek
        seekable tell truncate writable write writelines"),
    ("json.JSONEncoder",
      Text.words "__annotations__ __weakref__ default encode item_separator iterencode
        key_separator"),
    ("json.encoder.JSONEncoder",
      Text.words "__annotations__ __weakref__ default encode item_separator iterencode
        key_separator"),
    ("logging.Handler",
      Text.words "__annotations__ __weakref__ _at_fork_reinit acquire addFilter close createLock
        emit filter flush format get_name handle handleError name release removeFilter
        setFormatter setLevel set_name"),
    ("logging.handlers.QueueHandler",
      Text.words "__annotations__ __weakref__ _at_fork_reinit acquire addFilter close createLock
        emit enqueue filter flush format get_name handle handleError name prepare release
        removeFilter setFormatter setLevel set_name"),
    ("os.PathLike",
      Text.words "__abstractmethods__ __annotations__ __class_getitem__ __fspath__ __slots__
        __weakref__ _abc_caches_clear _abc_impl _abc_registry_clear _dump_registry register"),
    ("pathlib.Path",
      Text.words "__annotations__ __bytes__ __enter__ __exit__ __fspath__ __rtruediv__ __slots__
        __truediv__ _cached_cparts _cparts _drv _format_parsed_parts _from_parsed_parts
        _from_parts _hash _make_child _make_child_relpath _parse_args _parts _pparts _root
        _scandir _str absolute anchor as_posix as_uri chmod cwd drive exists expanduser glob
        group hardlink_to home is_absolute is_block_device is_char_device is_dir is_fifo is_file
        is_mount is_relative_to is_reserved is_socket is_symlink iterdir joinpath lchmod link_to
        lstat match mkdir name open owner parent parents parts read_bytes read_text readlink
        relative_to rename replace resolve rglob rmdir root samefile stat stem suffix suffixes
        symlink_to touch unlink with_name with_stem with_suffix write_bytes write_text"),
    ("pathlib.PurePath",
      Text.words "__annotations__ __bytes__ __fspath__ __rtruediv__ __slots__ __truediv__
        _cached_cparts _cparts _drv _format_parsed_parts _from_parsed_parts _from_parts _hash
        _make_child _parse_args _parts _pparts _root _str anchor as_posix as_uri drive
        is_absolute is_relative_to is_reserved joinpath match name parent parents parts
        relative_to root stem suffix suffixes with_name with_stem with_suffix"),
    ("queue.Queue",
      Text.words "__annotations__ __class_getitem__ __weakref__ _get _init _put _qsize empty full
        get get_nowait join put put_nowait qsize task_done"),
    ("string.Template",
      Text.words "__annotations__ __weakref__ _invalid braceidpattern delimiter flags
        get_identifiers idpattern is_valid pattern safe_substitute substitute"),
    ("threading.Thread",
      Text.words "__annotations__ __weakref__ _bootstrap _bootstrap_inner _delete _initialized
        _reset_internal_locks _set_ident _set_native_id _set_tstate_lock _stop
        _wait_for_tstate_lock daemon getName ident isDaemon is_alive join name native_id run
        setDaemon setName start"),
    ("types.SimpleNamespace", []),
    ("typing.Any",
      Text.words "__annotations__ __weakref__"),
    ("typing.Generic",
      Text.words "__annotations__ __class_getitem__ __slots__ _is_protocol"),
    ("typing.Protocol",
      Text.words "__abstractmethods__ __annotations__ __class_getitem__ __parameters__ __slots__
        _abc_caches_clear _abc_impl _abc_registry_clear _dump_registry _is_protocol
        _is_runtime_protocol register"),
    ("typing.TypeVar",
      Text.words "__annotations__ __copy__ __deepcopy__ __slots__ __typing_subst__ __weakref__"),
    ("unittest.TestCase",
      Text.words "__annotations__ __weakref__ _addExpectedFailure _addUnexpectedSuccess
        _baseAssertEqual _callCleanup _callSetUp _callTearDown _callTestMethod _deprecate
        _diffThreshold _formatMessage _getAssertEqualityFunc _truncateMessage addClassCleanup
        addCleanup addTypeEqualityFunc assertAlmostEqual assertAlmostEquals assertCountEqual
        assertDictContainsSubset assertDictEqual assertEqual assertEquals assertFalse
        assertGreater assertGreaterEqual assertIn assertIs assertIsInstance assertIsNone
        assertIsNot assertIsNotNone assertLess assertLessEqual assertListEqual assertLogs
        assertMultiLineEqual assertNoLogs assertNotAlmostEqual assertNotAlmostEquals
        assertNotEqual assertNotEquals assertNotIn assertNotIsInstance assertNotRegex
        assertNotRegexpMatches assertRaises assertRaisesRegex assertRaisesRegexp assertRegex
        assertRegexpMatches assertSequenceEqual assertSetEqual assertTrue assertTupleEqual
        assertWarns assertWarnsRegex assert_ countTestCases debug defaultTestResult
        doClassCleanups doCleanups enterClassContext enterContext fail failIf failIfAlmostEqual
        failIfEqual failUnless failUnlessAlmostEqual failUnlessEqual failUnlessRaises
        failureException id longMessage maxDiff run setUp setUpClass shortDescription skipTest
        subTest tearDown tearDownClass")]

/-- The qualified name of a class: one without a module is in `builtins`. -/
def qualify (name : String) : String :=
  match (Text.split '.' name).reverse with
  | [attr] => "builtins." ++ attr
  | [attr, ""] => "builtins." ++ attr
  | _ => name

/-- The attributes that the class called `name` has besides the common ones, if it is known. -/
def ownMembers? (name : String) : Option (List String) :=
  (classes.find? fun entry => entry.1 == qualify name).map Prod.snd

/-- Whether the class called `name` has the attribute `member`; `none` when it is not known. -/
def hasMember? (name member : String) : Option Bool :=
  (ownMembers? name).map fun own => own.contains member || commonMembers.contains member

end CoverAudit.KnownClass
